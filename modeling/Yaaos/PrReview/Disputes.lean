import Yaaos.Base.Outcome
import Yaaos.Pipelines.FindingLedger
import Yaaos.PrReview.Comments

set_option autoImplicit false

namespace Yaaos.PrReview

open Yaaos.Base
open Yaaos.Pipelines (Db Finding FindingStatusEvent PriorFindingVerdict VerdictStatus EngineError getFinding markDefended
  dismissFinding legalTransition)

inductive ReplyError where
  | actionError (text : String)
  | finding (error : EngineError)
  | postFailed (commentExternalId : String)

-- The context of the action, with the comments it reads, the anchor of every
-- finding, the clock and which of its posts the provider takes. A post is
-- named by how many went before it.
structure ReplyContext where
  runId : Uuid
  prExternalId : Option String
  precedingVerdicts : List PriorFindingVerdict
  comments : List PRComment
  externalCommentId : Uuid → Option String
  now : Nat
  posts : Nat → String → String → Bool

structure ReplyToCommentResult where
  repliesPosted : List Uuid
  dismissed : List Uuid
  defended : List Uuid

structure ReplyProgress where
  db : Db
  result : ReplyToCommentResult

def acceptanceReply : String := "Dismissing this finding based on your feedback."

def listCommentsForRun (comments : List PRComment) (runId : Uuid) : List PRComment :=
  comments.filter fun row => row.claimedByRunId == some runId

def disputedFindingIds (comments : List PRComment) : List Uuid :=
  comments.filterMap fun row => if row.classification = some (.intent .dispute) then row.findingId else none

def ReplyContext.disputed (ctx : ReplyContext) : List Uuid := disputedFindingIds (listCommentsForRun ctx.comments ctx.runId)

def truthy (text : Option String) : Bool := text.any fun text => text ≠ ""

def ReplyContext.dismissal (ctx : ReplyContext) : FindingStatusEvent :=
  { status := .dismissed, method := .userOverrode, actor := .system, runId := some ctx.runId, stageExecutionId := none,
    recordedAt := ctx.now }

def settleDispute (ctx : ReplyContext) (progress : ReplyProgress) (verdict : PriorFindingVerdict) (finding : Finding) :
    Except EngineError (ReplyProgress × Option String) :=
  if verdict.findingId ∈ ctx.disputed then
    match verdict.status with
    | none =>
        if truthy verdict.reply then do
          let db ← markDefended progress.db verdict.findingId ctx.now
          let defended := progress.result.defended ++ [verdict.findingId]
          .ok ({ db := db, result := { progress.result with defended := defended } }, verdict.reply)
        else .ok (progress, verdict.reply)
    | some status =>
        if finding.defendedAt.isSome ∧ status ≠ .userOverrode then do
          let db ← dismissFinding progress.db verdict.findingId ctx.dismissal
          let dismissed := progress.result.dismissed ++ [verdict.findingId]
          let text := if truthy verdict.reply then verdict.reply else some acceptanceReply
          .ok ({ db := db, result := { progress.result with dismissed := dismissed } }, text)
        else .ok (progress, verdict.reply)
  else .ok (progress, verdict.reply)

def postReply (ctx : ReplyContext) (progress : ReplyProgress) (findingId : Uuid) (replyText : Option String) :
    Except ReplyError ReplyProgress :=
  match ctx.externalCommentId findingId, replyText with
  | some commentExternalId, some text =>
      if text = "" then .ok progress
      else if ctx.posts progress.result.repliesPosted.length commentExternalId text then
        let repliesPosted := progress.result.repliesPosted ++ [findingId]
        .ok { progress with result := { progress.result with repliesPosted := repliesPosted } }
      else .error (.postFailed commentExternalId)
  | _, _ => .ok progress

def replyStep (ctx : ReplyContext) (progress : ReplyProgress) (verdict : PriorFindingVerdict) :
    Except ReplyError ReplyProgress := do
  let finding ← (getFinding progress.db verdict.findingId).mapError .finding
  let (settled, replyText) ← (settleDispute ctx progress verdict finding).mapError .finding
  postReply ctx settled verdict.findingId replyText

def replySteps (ctx : ReplyContext) : ReplyProgress → List PriorFindingVerdict → Except ReplyError ReplyProgress
  | progress, [] => .ok progress
  | progress, verdict :: rest => do
      let progress ← replyStep ctx progress verdict
      replySteps ctx progress rest

-- `github:reply_to_comment`.
def replyToComment (ctx : ReplyContext) (db : Db) : Except ReplyError ReplyProgress :=
  match ctx.prExternalId with
  | none => .error (.actionError "github:reply_to_comment requires a ticket with a bound PR")
  | some _ => replySteps ctx { db := db, result := { repliesPosted := [], dismissed := [], defended := [] } } ctx.precedingVerdicts

variable (ctx : ReplyContext) (verdict : PriorFindingVerdict) (db : Db) (row : Finding)

def ReplyContext.contest (ctx : ReplyContext) (verdict : PriorFindingVerdict) (row : Finding) : Finding :=
  match verdict.status with
  | none => if truthy verdict.reply ∧ row.defendedAt = none then { row with defendedAt := some ctx.now } else row
  | some status =>
      if row.defendedAt.isSome ∧ status ≠ .userOverrode ∧ row.status ≠ .dismissed then
        { row with status := .dismissed, statusEvents := row.statusEvents ++ [ctx.dismissal] }
      else row

def ReplyContext.effect (ctx : ReplyContext) (row : Finding) (verdict : PriorFindingVerdict) : Finding :=
  if row.id = verdict.findingId ∧ verdict.findingId ∈ ctx.disputed then ctx.contest verdict row else row

theorem mapError_ok {α ε δ : Type} (body : Except ε α) (wrap : ε → δ) (result : α) (done : body.mapError wrap = .ok result) :
    body = .ok result := by
  cases body with
  | error error => cases done
  | ok value =>
      cases done
      rfl

theorem contested_rows (finding : Finding)
    (change : Finding → Finding) (read : getFinding db verdict.findingId = .ok finding)
    (disputed : verdict.findingId ∈ ctx.disputed) (same : change finding = ctx.contest verdict finding) :
    (db.findings.rows.map fun row => if row.id == verdict.findingId then change row else row) =
      db.findings.rows.map fun row => ctx.effect row verdict := by
  obtain ⟨stored, own⟩ := Pipelines.getFinding_some db verdict.findingId finding read
  apply List.map_congr_left
  intro row member
  by_cases hit : row.id = verdict.findingId
  · have found : row = finding := Table.eq_of_key db.findings row finding member stored (hit.trans own.symm)
    rw [ReplyContext.effect, if_pos (by simpa using hit), if_pos ⟨hit, disputed⟩, found, same]
  · rw [ReplyContext.effect, if_neg (by simpa using hit), if_neg fun both => hit both.1]

theorem kept_rows (finding : Finding)
    (read : getFinding db verdict.findingId = .ok finding) (disputed : verdict.findingId ∈ ctx.disputed)
    (still : ctx.contest verdict finding = finding) :
    db.findings.rows = db.findings.rows.map fun row => ctx.effect row verdict := by
  rw [← contested_rows ctx verdict db finding id read disputed still.symm]
  simp

theorem markDefended_contest (db next : Db) (finding : Finding)
    (read : getFinding db verdict.findingId = .ok finding) (disputed : verdict.findingId ∈ ctx.disputed)
    (silent : verdict.status = none) (replied : truthy verdict.reply = true)
    (taken : markDefended db verdict.findingId ctx.now = .ok next) :
    next.findings.rows = db.findings.rows.map fun row => ctx.effect row verdict := by
  rw [markDefended, read] at taken
  change (if finding.defendedAt.isSome = true then Except.ok db else .ok _) = .ok next at taken
  by_cases stamped : finding.defendedAt.isSome = true
  · rw [if_pos stamped] at taken
    cases taken
    apply kept_rows ctx verdict db finding read disputed
    have defended : finding.defendedAt ≠ none := Option.isSome_iff_ne_none.mp stamped
    simp only [ReplyContext.contest, silent, replied, true_and, if_neg defended]
  · rw [if_neg stamped] at taken
    cases taken
    apply contested_rows ctx verdict db finding _ read disputed
    have undefended : finding.defendedAt = none := by simpa using stamped
    simp only [ReplyContext.contest, silent, replied, true_and, if_pos undefended]

theorem dismissFinding_contest (db next : Db) (finding : Finding)
    (status : VerdictStatus) (read : getFinding db verdict.findingId = .ok finding)
    (disputed : verdict.findingId ∈ ctx.disputed) (judged : verdict.status = some status)
    (coerced : finding.defendedAt.isSome = true ∧ status ≠ .userOverrode)
    (taken : dismissFinding db verdict.findingId ctx.dismissal = .ok next) :
    next.findings.rows = db.findings.rows.map fun row => ctx.effect row verdict := by
  obtain ⟨stored, own⟩ := Pipelines.getFinding_some db verdict.findingId finding read
  obtain ⟨other, otherStored, otherOwn, settled⟩ := Pipelines.transitionFinding_cases .dismissed db next
    verdict.findingId ctx.dismissal taken
  have found : other = finding := Table.eq_of_key db.findings other finding otherStored stored (otherOwn.trans own.symm)
  rw [found] at settled
  rcases settled with ⟨dismissed, rfl⟩ | ⟨standing, _, rfl⟩
  · apply kept_rows ctx verdict next finding read disputed
    simp only [ReplyContext.contest, judged, dismissed, ne_eq, not_true_eq_false, and_false, if_false]
  · apply contested_rows ctx verdict db finding _ read disputed
    simp only [ReplyContext.contest, judged]
    rw [if_pos ⟨coerced.1, coerced.2, standing⟩]

theorem settleDispute_effect (progress settled : ReplyProgress) (verdict : PriorFindingVerdict)
    (finding : Finding) (text : Option String) (read : getFinding progress.db verdict.findingId = .ok finding)
    (taken : settleDispute ctx progress verdict finding = .ok (settled, text)) :
    settled.db.findings.rows = progress.db.findings.rows.map fun row => ctx.effect row verdict := by
  unfold settleDispute at taken
  by_cases disputed : verdict.findingId ∈ ctx.disputed
  · rw [if_pos disputed] at taken
    cases judged : verdict.status with
    | none =>
        rw [judged] at taken
        dsimp only at taken
        by_cases replied : truthy verdict.reply = true
        · rw [if_pos replied] at taken
          obtain ⟨db, marked, done⟩ := bind_eq_ok _ _ _ taken
          cases done
          exact markDefended_contest ctx verdict _ db finding read disputed judged replied marked
        · rw [if_neg replied] at taken
          cases taken
          apply kept_rows ctx verdict _ finding read disputed
          simp only [ReplyContext.contest, judged]
          exact if_neg fun both => replied both.1
    | some status =>
        rw [judged] at taken
        dsimp only at taken
        by_cases coerced : finding.defendedAt.isSome = true ∧ status ≠ .userOverrode
        · rw [if_pos coerced] at taken
          obtain ⟨db, dismissed, done⟩ := bind_eq_ok _ _ _ taken
          cases done
          exact dismissFinding_contest ctx verdict _ db finding status read disputed judged coerced dismissed
        · rw [if_neg coerced] at taken
          cases taken
          apply kept_rows ctx verdict _ finding read disputed
          simp only [ReplyContext.contest, judged]
          exact if_neg fun all => coerced ⟨all.1, all.2.1⟩
  · rw [if_neg disputed] at taken
    cases taken
    symm
    apply List.map_id''
    intro row
    exact if_neg fun both => disputed both.2

theorem postReply_db (progress next : ReplyProgress) (findingId : Uuid) (replyText : Option String)
    (taken : postReply ctx progress findingId replyText = .ok next) : next.db = progress.db := by
  unfold postReply at taken
  split at taken
  · split at taken
    · cases taken
      rfl
    · split at taken
      · cases taken
        rfl
      · cases taken
  · cases taken
    rfl

theorem replyStep_effect (progress next : ReplyProgress) (verdict : PriorFindingVerdict)
    (taken : replyStep ctx progress verdict = .ok next) :
    next.db.findings.rows = progress.db.findings.rows.map fun row => ctx.effect row verdict := by
  obtain ⟨finding, read, rest⟩ := bind_eq_ok _ _ _ taken
  obtain ⟨⟨settled, text⟩, decided, posted⟩ := bind_eq_ok _ _ _ rest
  rw [postReply_db ctx settled next verdict.findingId text posted]
  exact settleDispute_effect ctx progress settled verdict finding text (mapError_ok _ _ _ read) (mapError_ok _ _ _ decided)

theorem replySteps_effect (progress last : ReplyProgress) (verdicts : List PriorFindingVerdict)
    (taken : replySteps ctx progress verdicts = .ok last) :
    last.db.findings.rows = progress.db.findings.rows.map (verdicts.foldl ctx.effect) := by
  induction verdicts generalizing progress with
  | nil =>
      cases taken
      exact (List.map_id _).symm
  | cons verdict rest ih =>
      obtain ⟨middle, first, later⟩ := bind_eq_ok _ _ _ taken
      rw [ih middle later, replyStep_effect ctx progress middle verdict first, List.map_map]
      rfl

theorem replyToComment_effect (last : ReplyProgress)
    (completes : replyToComment ctx db = .ok last) :
    last.db.findings.rows = db.findings.rows.map (ctx.precedingVerdicts.foldl ctx.effect) := by
  unfold replyToComment at completes
  split at completes
  · cases completes
  · exact replySteps_effect ctx _ last ctx.precedingVerdicts completes

structure Contested (ctx : ReplyContext) (row next : Finding) : Prop where
  id : next.id = row.id
  undisputed : row.id ∉ ctx.disputed → next = row
  dismissed : row.status = .dismissed → next.status = .dismissed
  defended : ∀ moment, row.defendedAt = some moment → next.defendedAt = some moment

theorem effect_contested (verdict : PriorFindingVerdict) :
    Contested ctx row (ctx.effect row verdict) := by
  unfold ReplyContext.effect
  by_cases hit : row.id = verdict.findingId ∧ verdict.findingId ∈ ctx.disputed
  · rw [if_pos hit]
    have disputed : row.id ∈ ctx.disputed := by
      rw [hit.1]
      exact hit.2
    unfold ReplyContext.contest
    cases verdict.status with
    | none =>
        dsimp only
        split
        · rename_i undefended
          refine ⟨rfl, fun apart => absurd disputed apart, id, ?_⟩
          intro moment stamped
          rw [undefended.2] at stamped
          cases stamped
        · exact ⟨rfl, fun _ => rfl, id, fun _ => id⟩
    | some status =>
        dsimp only
        split
        · exact ⟨rfl, fun apart => absurd disputed apart, fun _ => rfl, fun _ => id⟩
        · exact ⟨rfl, fun _ => rfl, id, fun _ => id⟩
  · rw [if_neg hit]
    exact ⟨rfl, fun _ => rfl, id, fun _ => id⟩

theorem effects_contested (verdicts : List PriorFindingVerdict) :
    Contested ctx row (verdicts.foldl ctx.effect row) := by
  induction verdicts generalizing row with
  | nil => exact ⟨rfl, fun _ => rfl, id, fun _ => id⟩
  | cons verdict rest ih =>
      have first := effect_contested ctx row verdict
      have later := ih (ctx.effect row verdict)
      constructor
      · exact later.id.trans first.id
      · intro apart
        have still := first.undisputed apart
        have last := later.undisputed
        rw [still] at last
        change rest.foldl ctx.effect (ctx.effect row verdict) = row
        rw [still]
        exact last apart
      · exact fun gone => later.dismissed (first.dismissed gone)
      · exact fun moment stamped => later.defended moment (first.defended moment stamped)

def insists (verdict : PriorFindingVerdict) : Prop := verdict.status = some .fixed ∨ verdict.status = some .stillPresent

theorem effect_dismissed (verdict : PriorFindingVerdict)
    (disputed : row.id ∈ ctx.disputed) (defended : row.defendedAt.isSome = true) :
    (ctx.effect row verdict).status = .dismissed ↔
      row.status = .dismissed ∨ (verdict.findingId = row.id ∧ insists verdict) := by
  unfold ReplyContext.effect
  by_cases own : row.id = verdict.findingId
  · rw [own] at disputed
    rw [if_pos ⟨own, disputed⟩]
    have stamped : row.defendedAt ≠ none := Option.isSome_iff_ne_none.mp defended
    cases judged : verdict.status with
    | none => simp [ReplyContext.contest, insists, judged, stamped]
    | some status =>
        by_cases gone : row.status = .dismissed
        · simp [ReplyContext.contest, judged, gone]
        · cases status with
          | fixed => simp [ReplyContext.contest, insists, judged, defended, gone, own]
          | stillPresent => simp [ReplyContext.contest, insists, judged, defended, gone, own]
          | userOverrode => simp [ReplyContext.contest, insists, judged, gone]
  · rw [if_neg fun both => own both.1]
    constructor
    · exact .inl
    · rintro (gone | ⟨same, _⟩)
      · exact gone
      · exact absurd same.symm own

theorem effects_dismissed (verdicts : List PriorFindingVerdict)
    (disputed : row.id ∈ ctx.disputed) (defended : row.defendedAt.isSome = true) :
    (verdicts.foldl ctx.effect row).status = .dismissed ↔
      row.status = .dismissed ∨ ∃ verdict ∈ verdicts, verdict.findingId = row.id ∧ insists verdict := by
  induction verdicts generalizing row with
  | nil => simp
  | cons verdict rest ih =>
      have first := effect_contested ctx row verdict
      obtain ⟨moment, stamped⟩ := Option.isSome_iff_exists.mp defended
      have still : (ctx.effect row verdict).defendedAt.isSome = true := by
        rw [first.defended moment stamped]
        rfl
      have there : (ctx.effect row verdict).id ∈ ctx.disputed := by
        rw [first.id]
        exact disputed
      rw [List.foldl_cons, ih _ there still, effect_dismissed ctx row verdict disputed defended, first.id]
      simp only [List.exists_mem_cons_iff, or_assoc]

inductive Deed where
  | call (call : Pipelines.LedgerCall)
  | reply (ctx : ReplyContext)

def deedStep (db : Db) : Deed → Except ReplyError Db
  | .call call => (Pipelines.ledgerStep db call).mapError .finding
  | .reply ctx => (replyToComment ctx db).map ReplyProgress.db

def life : Machine Db Deed ReplyError where
  initial db := db.findings.rows = []
  allowed _ _ := True
  step := deedStep

def Stamped (before after : Db) : Prop :=
  ∀ row ∈ before.findings.rows, ∃ next ∈ after.findings.rows,
    next.id = row.id ∧ ∀ moment, row.defendedAt = some moment → next.defendedAt = some moment

theorem stamped_refl : Stamped db db := fun row member => ⟨row, member, rfl, fun _ => id⟩

theorem stamped_trans (first middle last : Db) (left : Stamped first middle) (right : Stamped middle last) :
    Stamped first last := by
  intro row member
  obtain ⟨next, inside, same, kept⟩ := left row member
  obtain ⟨final, there, again, still⟩ := right next inside
  exact ⟨final, there, again.trans same, fun moment stamped => still moment (kept moment stamped)⟩

theorem stamped_map (before after : Db) (change : Finding → Finding)
    (rows : after.findings.rows = before.findings.rows.map change)
    (kept : ∀ row ∈ before.findings.rows, (change row).id = row.id ∧
      ∀ moment, row.defendedAt = some moment → (change row).defendedAt = some moment) : Stamped before after := by
  intro row member
  refine ⟨change row, ?_, kept row member⟩
  rw [rows]
  exact List.mem_map_of_mem member

theorem appendEvent_stamped (findingId : Uuid) (status : Pipelines.FindingStatus) (event : FindingStatusEvent) :
    Stamped db (Pipelines.appendEvent db findingId status event) := by
  apply stamped_map _ _ _ rfl
  intro row _
  dsimp only
  split
  · exact ⟨rfl, fun _ => id⟩
  · exact ⟨rfl, fun _ => id⟩

theorem transition_stamped (target : Pipelines.FindingStatus) (db next : Db) (findingId : Uuid) (event : FindingStatusEvent)
    (taken : Pipelines.transitionFinding target db findingId event = .ok next) : Stamped db next := by
  obtain ⟨_, _, _, settled⟩ := Pipelines.transitionFinding_cases target db next findingId event taken
  rcases settled with ⟨_, rfl⟩ | ⟨_, _, rfl⟩
  · exact stamped_refl next
  · exact appendEvent_stamped db findingId target event

theorem markDefended_stamped (db next : Db) (findingId : Uuid) (now : Nat)
    (taken : markDefended db findingId now = .ok next) : Stamped db next := by
  cases read : getFinding db findingId with
  | error error =>
      rw [markDefended, read] at taken
      cases taken
  | ok finding =>
      obtain ⟨stored, own⟩ := Pipelines.getFinding_some db findingId finding read
      rw [markDefended, read] at taken
      change (if finding.defendedAt.isSome = true then Except.ok db else .ok _) = .ok next at taken
      by_cases defended : finding.defendedAt.isSome = true
      · rw [if_pos defended] at taken
        cases taken
        exact stamped_refl db
      · rw [if_neg defended] at taken
        cases taken
        apply stamped_map _ _ _ rfl
        intro row member
        dsimp only
        split
        · rename_i hit
          have found : row = finding :=
            Table.eq_of_key db.findings row finding member stored ((beq_iff_eq.mp hit).trans own.symm)
          refine ⟨rfl, fun moment stamped => ?_⟩
          rw [← found, stamped] at defended
          exact absurd rfl defended
        · exact ⟨rfl, fun _ => id⟩

theorem recordFindings_stamped (session : Pipelines.Session) (stageExec : Pipelines.StageExecution)
    (iteration first : Nat) (specs : List Pipelines.FindingSpec) :
    Stamped session.db (Pipelines.recordFindings session stageExec iteration first specs).1.db := by
  induction specs generalizing session first with
  | nil => exact stamped_refl session.db
  | cons spec rest ih =>
      rw [Pipelines.recordFindings]
      cases found : session.db.findings.find? spec.id with
      | some existing =>
          refine stamped_trans _ _ _ ?_ (ih _ first)
          apply stamped_map _ _ _ rfl
          intro row _
          dsimp only
          split
          · exact ⟨rfl, fun _ => id⟩
          · exact ⟨rfl, fun _ => id⟩
      | none =>
          refine stamped_trans _ _ _ ?_ (ih _ (first + 1))
          intro row member
          refine ⟨row, ?_, rfl, fun _ => id⟩
          dsimp only
          cases stored : session.db.findings.insert? _ with
          | none => exact member
          | some inserted =>
              obtain ⟨appended, _⟩ := Table.insert?_some _ _ _ stored
              change row ∈ inserted.rows
              rw [appended]
              exact List.mem_append_left _ member

theorem ledgerStep_stamped (db next : Db) (call : Pipelines.LedgerCall) (taken : Pipelines.ledgerStep db call = .ok next) :
    Stamped db next := by
  cases call with
  | record run stageExec iteration specs =>
      cases taken
      exact recordFindings_stamped { db := db, run := run } stageExec iteration _ specs
  | resolve findingId event => exact transition_stamped .resolved db next findingId event taken
  | reopen findingId event => exact transition_stamped .opened db next findingId event taken
  | dismiss findingId event => exact transition_stamped .dismissed db next findingId event taken
  | reflag findingId event =>
      obtain ⟨_, _, _, _, rfl⟩ := Pipelines.reflagFinding_cases db next findingId event taken
      exact appendEvent_stamped db findingId .opened event
  | markDefended findingId now => exact markDefended_stamped db next findingId now taken

theorem reply_stamped (last : ReplyProgress) (completes : replyToComment ctx db = .ok last) :
    Stamped db last.db := by
  apply stamped_map _ _ _ (replyToComment_effect ctx db last completes)
  intro row _
  have contested := effects_contested ctx row ctx.precedingVerdicts
  exact ⟨contested.id, contested.defended⟩

theorem deedStep_stamped (db next : Db) (deed : Deed) (taken : deedStep db deed = .ok next) : Stamped db next := by
  cases deed with
  | call call => exact ledgerStep_stamped db next call (mapError_ok _ _ _ taken)
  | reply ctx =>
      obtain ⟨last, completes, rfl⟩ := map_eq_ok _ _ _ taken
      exact reply_stamped ctx db last completes

theorem life_stamped (deeds : List Deed) : Stamped db (life.after db deeds) := by
  induction deeds generalizing db with
  | nil => exact stamped_refl db
  | cons deed rest ih =>
      refine stamped_trans _ _ _ ?_ (ih (life.committed deed db))
      cases taken : deedStep db deed with
      | error error =>
          simp only [Machine.committed, life, taken]
          exact stamped_refl db
      | ok next =>
          simp only [Machine.committed, life, taken]
          exact deedStep_stamped db next deed taken

def ReplyContext.disputedAgain (ctx : ReplyContext) (row : Finding) : Prop :=
  row.id ∈ ctx.disputed ∧ row.defendedAt.isSome = true ∧ ∃ verdict ∈ ctx.precedingVerdicts, verdict.findingId = row.id

structure DisputePolicy (ctx : ReplyContext) (before after : Db) : Prop where
  settled : ∀ row ∈ before.findings.rows, ctx.disputedAgain row →
    ∃ next ∈ after.findings.rows, next.id = row.id ∧ next.status = .dismissed
  untouched : ∀ row ∈ before.findings.rows, row.id ∉ ctx.disputed →
    ∃ next ∈ after.findings.rows, next.id = row.id ∧ next.status = row.status ∧ next.defendedAt = row.defendedAt
  once : Stamped before after ∧ ∀ deeds, Stamped after (life.after after deeds)

-- A verdict without a status, which the first branch takes for a defence, and
-- one of `user_overrode` leave a defended finding as it is.
theorem replyToComment_policy (before : Db) (last : ReplyProgress)
    (completes : replyToComment ctx before = .ok last) :
    DisputePolicy ctx before last.db ↔
      ∀ row ∈ before.findings.rows, ctx.disputedAgain row →
        row.status = .dismissed ∨ ∃ verdict ∈ ctx.precedingVerdicts, verdict.findingId = row.id ∧ insists verdict := by
  have rows := replyToComment_effect ctx before last completes
  have contested (row : Finding) := effects_contested ctx row ctx.precedingVerdicts
  constructor
  · intro policy row member again
    obtain ⟨next, inside, same, dismissed⟩ := policy.settled row member again
    rw [rows] at inside
    obtain ⟨origin, held, rfl⟩ := List.mem_map.mp inside
    have own : origin = row := Table.eq_of_key before.findings origin row held member ((contested origin).id.symm.trans same)
    rw [own] at dismissed
    exact (effects_dismissed ctx row _ again.1 again.2.1).mp dismissed
  · intro holds
    refine ⟨?_, ?_, reply_stamped ctx before last completes, life_stamped last.db⟩
    · intro row member again
      refine ⟨_, ?_, (contested row).id, (effects_dismissed ctx row _ again.1 again.2.1).mpr (holds row member again)⟩
      rw [rows]
      exact List.mem_map_of_mem member
    · intro row member apart
      refine ⟨row, ?_, rfl, rfl, rfl⟩
      rw [rows]
      exact List.mem_map.mpr ⟨row, member, (contested row).undisputed apart⟩

def defendedFinding : Finding :=
  { id := 1, orgId := 2, ticketId := 3, sourceRunId := 4, sourceStageName := "review", sourceStageExecutionId := 5,
    firstSeenIteration := 1, displayPrefix := "SPEC", displayId := 1, severity := .nit, body := "rename it",
    codeFile := none, codeLine := none, artifactSection := none, defectInArtifact := none, status := .opened,
    statusEvents := [], defendedAt := some 20 }

def defendedStore : Db :=
  { nextId := 10, runs := .empty, tickets := .empty, workspaces := .empty,
    findings := { rows := [defendedFinding], unique := List.nodup_singleton 1 }, artifacts := [], agentCommands := [],
    codingAgentRuns := [], outbox := [] }

def secondDispute (verdicts : List PriorFindingVerdict) : ReplyContext :=
  { runId := 7, prExternalId := some "pr", precedingVerdicts := verdicts,
    comments :=
      [{ id := 8, commentExternalId := "8", authorLogin := "dev", body := "still wrong", findingId := some 1,
         classification := some (.intent .dispute), claimedByRunId := some 7 }],
    externalCommentId := fun _ => some "100", now := 30, posts := fun _ _ _ => true }

def defendsAgain : List PriorFindingVerdict := [{ findingId := 1, status := none, reply := some "it stands" }]

def insistsOnce : List PriorFindingVerdict := defendsAgain ++ [{ findingId := 1, status := some .stillPresent, reply := none }]

def disputeEnd (verdicts : List PriorFindingVerdict) (result : ReplyToCommentResult) : ReplyProgress :=
  let changed := defendedStore.findings.update (fun _ => true) (verdicts.foldl (secondDispute verdicts).effect)
    fun row => (effects_contested (secondDispute verdicts) row verdicts).id
  { db := { defendedStore with findings := changed }, result := result }

theorem insisted_policy :
    DisputePolicy (secondDispute insistsOnce) defendedStore
      (disputeEnd insistsOnce { repliesPosted := [1, 1], dismissed := [1], defended := [1] }).db := by
  apply (replyToComment_policy (secondDispute insistsOnce) defendedStore
    (disputeEnd insistsOnce { repliesPosted := [1, 1], dismissed := [1], defended := [1] }) rfl).mpr
  intro row member _
  rw [List.mem_singleton.mp member]
  exact .inr ⟨_, List.mem_cons_of_mem _ (List.mem_singleton_self _), rfl, .inr rfl⟩

-- The second dispute is answered by a second defence and the finding stays open.
theorem defended_twice :
    ¬ ∀ (ctx : ReplyContext) (before : Db) (last : ReplyProgress), replyToComment ctx before = .ok last →
      DisputePolicy ctx before last.db := by
  intro claim
  have policy := claim (secondDispute defendsAgain) defendedStore
    { db := defendedStore, result := { repliesPosted := [1], dismissed := [], defended := [1] } } rfl
  have again : (secondDispute defendsAgain).disputedAgain defendedFinding :=
    ⟨List.mem_singleton_self 1, rfl, _, List.mem_singleton_self _, rfl⟩
  obtain ⟨next, member, _, dismissed⟩ := policy.settled defendedFinding (List.mem_singleton_self _) again
  rw [List.mem_singleton.mp member] at dismissed
  cases dismissed

end Yaaos.PrReview
