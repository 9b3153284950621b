import Mathlib.Logic.Function.Basic
import Yaaos.Base.Machine
import Yaaos.Base.Table
import Yaaos.Pipelines.Types

set_option autoImplicit false

namespace Yaaos.PrReview

open Yaaos.Base
open Yaaos.Pipelines (RunState)

inductive CommentIntent where
  | question
  | claimsFixed
  | dispute
  deriving DecidableEq

inductive Classification where
  | intent (intent : CommentIntent)
  | unclear
  deriving DecidableEq

def Classification.text : Classification → String
  | .intent .question => "question"
  | .intent .claimsFixed => "claims_fixed"
  | .intent .dispute => "dispute"
  | .unclear => "unclear"

structure PRComment where
  id : Uuid
  commentExternalId : String
  authorLogin : String
  body : String
  findingId : Option Uuid
  classification : Option Classification
  claimedByRunId : Option Uuid

def PRComment.actionable (row : PRComment) : Bool :=
  match row.classification with
  | some (.intent _) => true
  | some .unclear | none => false

def PRComment.waiting (row : PRComment) : Bool := row.claimedByRunId.isNone && row.actionable

structure ClassifyCommentOutput where
  intent : CommentIntent
  confidence : Fin 101

def lowConfidenceMax : Nat := 50

def PRComment.classify (row : PRComment) (result : ClassifyCommentOutput) : Classification :=
  if row.findingId.isNone then .unclear
  else if lowConfidenceMax ≤ result.confidence then .intent result.intent
  else .unclear

def PRComment.stamp (row : PRComment) (classification : Classification) : PRComment :=
  { row with classification := some classification }

def PRComment.claim (row : PRComment) (runId : Uuid) : PRComment := { row with claimedByRunId := some runId }

@[simp]
theorem stamp_id (row : PRComment) (classification : Classification) : (row.stamp classification).id = row.id := rfl

@[simp]
theorem claim_id (row : PRComment) (runId : Uuid) : (row.claim runId).id = row.id := rfl

theorem waiting_unclaimed (row : PRComment) (waits : row.waiting = true) : row.claimedByRunId = none := by
  simp only [PRComment.waiting, Bool.and_eq_true, Option.isNone_iff_eq_none] at waits
  exact waits.1

def batchLine (handle : Uuid → String) (row : PRComment) : String :=
  let anchor := match row.findingId with
    | some findingId => " on " ++ handle findingId
    | none => ""
  let classification := match row.classification with
    | some classification => classification.text
    | none => "None"
  "- [" ++ classification ++ "]" ++ anchor ++ " @" ++ row.authorLogin ++ ": " ++ row.body

def renderBatch (handle : Uuid → String) (rows : List PRComment) : String :=
  String.intercalate "\n" ("PR comments requiring a response:" :: rows.map (batchLine handle))

structure ApprovalView where
  prId : Option Uuid
  autoApproveEnabled : Bool
  branchName : Option String
  conditionsPass : Bool
  hasActiveApproval : Option Bool
  approvePr : Option Unit

inductive ApprovalOutcome where
  | skipped
  | approved
  | raised
  deriving DecidableEq

def evaluateAutoApproval (view : ApprovalView) : ApprovalOutcome :=
  match view.prId with
  | none => .skipped
  | some _ =>
      if !view.autoApproveEnabled then .skipped
      else if view.branchName.any (fun name => "yaaos/".isPrefixOf name) then .skipped
      else if !view.conditionsPass then .skipped
      else match view.hasActiveApproval with
        | none => .raised
        | some true => .skipped
        | some false => match view.approvePr with
          | none => .raised
          | some _ => .approved

structure TicketRun where
  id : Uuid
  state : RunState
  inputText : Option String
  batch : List Uuid

def TicketRun.inFlight (run : TicketRun) : Bool := !run.state.isTerminal

inductive Message where
  | classifyComment (commentId : Uuid)
  | afterRunTerminal
  deriving DecidableEq

def Message.maxRetries : Message → Nat
  | .classifyComment _ => 3
  | .afterRunTerminal => 1

inductive Caller where
  | classifyComment
  | afterRunTerminal
  deriving DecidableEq

-- Where the body of a task stands. From `looking` on it is inside one
-- transaction; `held` are the rows it has locked.
inductive Phase where
  | idle
  | loading (commentId : Uuid)
  | classifying (commentId : Uuid)
  | replying
  | looking (caller : Caller)
  | selecting (caller : Caller)
  | locking (caller : Caller) (snapshot : List Uuid)
  | starting (caller : Caller) (held : List Uuid)
  | ending (caller : Caller) (held : List Uuid) (inputText : Option String)
  deriving DecidableEq

def Message.body : Message → Phase
  | .classifyComment commentId => .loading commentId
  | .afterRunTerminal => .looking .afterRunTerminal

-- One ticket: its comments and runs, whether its repository has a
-- `github:pr_comment` binding, the queued messages with the retries left to
-- them, the workers, and the row locks.
structure Conversation where
  nextId : Uuid
  comments : Table PRComment Uuid PRComment.id
  runs : Table TicketRun Uuid TicketRun.id
  bound : Bool
  pending : List (Message × Nat)
  workers : Nat → Phase
  locks : Uuid → Option Nat

structure InboundComment where
  externalId : String
  authorLogin : String
  body : String

inductive ConversationLabel where
  | post (comment : InboundComment) (findingId : Option Uuid)
  | deliver (worker : Nat) (message : Message) (left : Nat) (again : Bool)
  | load (worker : Nat)
  | stamp (worker : Nat) (result : ClassifyCommentOutput)
  | reply (worker : Nat)
  | look (worker : Nat)
  | select (worker : Nat)
  | lock (worker : Nat)
  | start (worker : Nat) (handle : Uuid → String) (succeeds : Bool)
  | finish (worker : Nat) (view : ApprovalView) (promoted : Bool)
  | fail (worker : Nat)
  | otherRun (inputText : Option String)
  | advance (runId : Uuid) (state : RunState)
  | cancelQueued (runId : Uuid)
  | bind (bound : Bool)

inductive ConversationError where
  | integrityError
  | notPending
  | outOfTurn
  | blocked
  | runNotFound (runId : Uuid)
  | runAlreadyTerminal (runId : Uuid)
  | outOfState (runId : Uuid)
  deriving DecidableEq

namespace Conversation

def turn (talk : Conversation) (worker : Nat) (phase : Phase) : Conversation :=
  { talk with workers := Function.update talk.workers worker phase }

def release (talk : Conversation) (worker : Nat) : Conversation :=
  { talk.turn worker .idle with locks := fun id => if talk.locks id = some worker then none else talk.locks id }

def enqueue (talk : Conversation) (message : Message) : Conversation :=
  { talk with pending := talk.pending ++ [(message, message.maxRetries)] }

def hasRunInFlight (talk : Conversation) : Bool := talk.runs.rows.any TicketRun.inFlight

def newComment (talk : Conversation) (comment : InboundComment) (findingId : Option Uuid) : PRComment :=
  { id := talk.nextId, commentExternalId := comment.externalId, authorLogin := comment.authorLogin
    body := comment.body, findingId := findingId, classification := none, claimedByRunId := none }

def post (talk : Conversation) (comment : InboundComment) (findingId : Option Uuid) :
    Except ConversationError Conversation :=
  if talk.comments.rows.any (fun row => row.commentExternalId == comment.externalId) then .error .integrityError
  else match talk.comments.insert? (talk.newComment comment findingId) with
    | none => .error .integrityError
    | some comments =>
        .ok ({ talk with nextId := talk.nextId + 1, comments := comments }.enqueue (.classifyComment talk.nextId))

def deliver (talk : Conversation) (worker : Nat) (message : Message) (left : Nat) (again : Bool) : Conversation :=
  let rest := talk.pending.erase (message, left)
  { talk with pending := if again && decide (0 < left) then (message, left - 1) :: rest else rest }.turn worker
    message.body

def load (talk : Conversation) (worker : Nat) (commentId : Uuid) : Conversation :=
  match talk.comments.find? commentId with
  | none => talk.turn worker .idle
  | some row => if row.classification.isSome then talk.turn worker .idle else talk.turn worker (.classifying commentId)

def stampRow (talk : Conversation) (commentId : Uuid) (classification : Classification) : Conversation :=
  { talk with
    comments := talk.comments.update (fun row => row.id == commentId) (fun row => row.stamp classification) fun row =>
      stamp_id row classification }

def stamp (talk : Conversation) (worker : Nat) (commentId : Uuid) (result : ClassifyCommentOutput) :
    Except ConversationError Conversation :=
  if talk.locks commentId ≠ none then .error .blocked
  else match talk.comments.find? commentId with
    | none => .ok (talk.turn worker .idle)
    | some row => match row.classify result with
        | .unclear => .ok ((talk.stampRow commentId .unclear).turn worker .replying)
        | .intent intent =>
            .ok ((talk.stampRow commentId (.intent intent)).turn worker (.looking .classifyComment))

def waitingRows (talk : Conversation) : List PRComment := talk.comments.rows.filter PRComment.waiting

def look (talk : Conversation) (worker : Nat) (caller : Caller) : Conversation :=
  if talk.hasRunInFlight then talk.turn worker (.ending caller [] none) else talk.turn worker (.selecting caller)

-- The rows that the SELECT has found, and those of them that still wait when
-- their locks are granted.
def select (talk : Conversation) (worker : Nat) (caller : Caller) : Conversation :=
  talk.turn worker (.locking caller (talk.waitingRows.map PRComment.id))

def lock (talk : Conversation) (worker : Nat) (caller : Caller) (snapshot : List Uuid) :
    Except ConversationError Conversation :=
  if snapshot.any (fun id => (talk.locks id).isSome) then .error .blocked
  else
    let held := (talk.waitingRows.filter fun row => snapshot.contains row.id).map PRComment.id
    if held = [] then .ok (talk.turn worker (.ending caller [] none))
    else
      .ok { talk.turn worker (.starting caller held) with
              locks := fun id => if id ∈ held then some worker else talk.locks id }

def start (talk : Conversation) (worker : Nat) (caller : Caller) (held : List Uuid) (handle : Uuid → String)
    (succeeds : Bool) : Conversation :=
  if !talk.bound then talk.turn worker (.ending caller held none)
  else if succeeds then
    let rows := talk.comments.rows.filter fun row => held.contains row.id
    talk.turn worker (.ending caller held (some (renderBatch handle rows)))
  else talk.release worker

def newRun (talk : Conversation) (held : List Uuid) (inputText : String) (promoted : Bool) : TicketRun :=
  let active := talk.runs.rows.any fun run => run.state = .running ∨ run.state = .paused
  { id := talk.nextId, state := if promoted && !active then .running else .queued, inputText := some inputText
    batch := held }

def commitBatch (talk : Conversation) (held : List Uuid) (inputText : String) (promoted : Bool) : Conversation :=
  match talk.runs.insert? (talk.newRun held inputText promoted) with
  | none => talk
  | some runs =>
      { talk with
        nextId := talk.nextId + 1
        runs := runs
        comments := talk.comments.update (fun row => held.contains row.id) (fun row => row.claim talk.nextId) fun row =>
          claim_id row talk.nextId }

def finish (talk : Conversation) (worker : Nat) (caller : Caller) (held : List Uuid) (inputText : Option String)
    (view : ApprovalView) (promoted : Bool) : Conversation :=
  if caller = .afterRunTerminal ∧ evaluateAutoApproval view = .raised then talk.release worker
  else match inputText with
    | none => talk.release worker
    | some text => (talk.commitBatch held text promoted).release worker

def otherRun (talk : Conversation) (inputText : Option String) : Except ConversationError Conversation :=
  match talk.runs.insert? { id := talk.nextId, state := .queued, inputText := inputText, batch := [] } with
  | none => .error .integrityError
  | some runs => .ok { talk with nextId := talk.nextId + 1, runs := runs }

def moveRun (talk : Conversation) (runId : Uuid) (state : RunState) : Conversation :=
  { talk with
    runs := talk.runs.update (fun row => row.id == runId) (fun row => { row with state := state }) fun _ => rfl }

-- A step of the engine. Its `_enter_terminal` ends a run that was promoted, and enqueues the hook.
def advance (talk : Conversation) (runId : Uuid) (state : RunState) : Except ConversationError Conversation :=
  match talk.runs.find? runId with
  | none => .error (.runNotFound runId)
  | some run =>
      if run.state.isTerminal then .error (.runAlreadyTerminal runId)
      else if run.state = .queued ∧ state.isTerminal = true then .error (.outOfState runId)
      else
        let moved := talk.moveRun runId state
        .ok (if state.isTerminal then moved.enqueue .afterRunTerminal else moved)

-- It enqueues no hook.
def cancelQueued (talk : Conversation) (runId : Uuid) : Except ConversationError Conversation :=
  match talk.runs.find? runId with
  | none => .error (.runNotFound runId)
  | some run => if run.state = .queued then .ok (talk.moveRun runId .cancelled) else .error (.outOfState runId)

end Conversation

def conversationStep (talk : Conversation) : ConversationLabel → Except ConversationError Conversation
  | .post comment findingId => talk.post comment findingId
  | .deliver worker message left again => match talk.workers worker with
      | .idle =>
          if (message, left) ∈ talk.pending then .ok (talk.deliver worker message left again) else .error .notPending
      | _ => .error .outOfTurn
  | .load worker => match talk.workers worker with
      | .loading commentId => .ok (talk.load worker commentId)
      | _ => .error .outOfTurn
  | .stamp worker result => match talk.workers worker with
      | .classifying commentId => talk.stamp worker commentId result
      | _ => .error .outOfTurn
  | .reply worker => match talk.workers worker with
      | .replying => .ok (talk.turn worker .idle)
      | _ => .error .outOfTurn
  | .look worker => match talk.workers worker with
      | .looking caller => .ok (talk.look worker caller)
      | _ => .error .outOfTurn
  | .select worker => match talk.workers worker with
      | .selecting caller => .ok (talk.select worker caller)
      | _ => .error .outOfTurn
  | .lock worker => match talk.workers worker with
      | .locking caller snapshot => talk.lock worker caller snapshot
      | _ => .error .outOfTurn
  | .start worker handle succeeds => match talk.workers worker with
      | .starting caller held => .ok (talk.start worker caller held handle succeeds)
      | _ => .error .outOfTurn
  | .finish worker view promoted => match talk.workers worker with
      | .ending caller held inputText => .ok (talk.finish worker caller held inputText view promoted)
      | _ => .error .outOfTurn
  | .fail worker => .ok (talk.release worker)
  | .otherRun inputText => talk.otherRun inputText
  | .advance runId state => talk.advance runId state
  | .cancelQueued runId => talk.cancelQueued runId
  | .bind bound => .ok { talk with bound := bound }

structure Unspoken (talk : Conversation) : Prop where
  comments : talk.comments.rows = []
  runs : talk.runs.rows = []
  pending : talk.pending = []
  resting : ∀ worker, talk.workers worker = .idle
  unlocked : ∀ id, talk.locks id = none

def conversations : Machine Conversation ConversationLabel ConversationError where
  initial := Unspoken
  allowed := fun _ _ => True
  step := conversationStep

end Yaaos.PrReview
