import Mathlib.Data.List.Infix
import Mathlib.Logic.Function.Basic
import Yaaos.Pipelines.Stores

set_option autoImplicit false

namespace Yaaos.PrReview

open Yaaos.Base
open Yaaos.Pipelines (Finding)

inductive CommentKind where
  | inline
  | topLevel
  deriving DecidableEq

structure PullComment where
  externalId : Nat
  kind : CommentKind
  body : String
  findingId : Option Uuid

-- The comments in the order of their posting, under the ids that GitHub gives out.
structure PullThread where
  comments : List PullComment
  nextId : Nat
  below : ∀ comment ∈ comments, comment.externalId < nextId
  distinct : (comments.map PullComment.externalId).Nodup

def PullThread.post (thread : PullThread) (kind : CommentKind) (body : String) (findingId : Option Uuid) : PullThread where
  comments := thread.comments ++ [{ externalId := thread.nextId, kind := kind, body := body, findingId := findingId }]
  nextId := thread.nextId + 1
  below := by
    intro comment member
    rcases List.mem_append.mp member with old | new
    · exact Nat.lt_succ_of_lt (thread.below comment old)
    · rw [List.mem_singleton.mp new]
      exact Nat.lt_succ_self thread.nextId
  distinct := by
    rw [List.map_append, List.nodup_append]
    refine ⟨thread.distinct, List.nodup_singleton _, ?_⟩
    intro id member other single same
    obtain ⟨comment, inside, rfl⟩ := List.mem_map.mp member
    rw [List.map_singleton, List.mem_singleton] at single
    change other = thread.nextId at single
    have bound := thread.below comment inside
    omega

-- One request for comments answers with a page of them.
def PullThread.page (thread : PullThread) (pageSize : Nat) (kind : CommentKind) : List PullComment :=
  (thread.comments.filter fun comment => comment.kind == kind).take pageSize

-- An answer other than 200 counts as no comments.
def listYaaosComments (thread : PullThread) (pageSize : Nat) (inlineOk topOk : Bool) : List PullComment :=
  (if inlineOk then thread.page pageSize .inline else []) ++ (if topOk then thread.page pageSize .topLevel else [])

def categoryCodes : List (String × String) :=
  [("security", "sec"), ("architecture", "arch"), ("performance", "perf"), ("correctness", "bug"), ("testing", "test"),
    ("documentation", "doc"), ("style", "style")]

def categoryPrefix (category : String) : String :=
  match categoryCodes.lookup category with
  | some code => code
  | none =>
      let slug := (category.toList.filter fun letter => letter.isLower || letter.isDigit).take 8
      if slug = [] then "find" else String.ofList slug

def findingHandle (category : String) (findingDisplayId : Nat) : String :=
  categoryPrefix category ++ "-" ++ toString findingDisplayId

def formatFindingBody (finding : Finding) : String :=
  "**[" ++ findingHandle finding.severity.text finding.displayId ++ "] " ++ finding.handle ++ "**\n\n" ++ finding.body ++
    "\n\n- **Severity:** " ++ finding.severity.text ++ "  **Confidence:** n/a  **Source:** " ++ finding.sourceStageName

def commentKind (finding : Finding) : CommentKind :=
  match finding.codeFile, finding.codeLine with
  | some file, some _ => if file = "" then .topLevel else .inline
  | _, _ => .topLevel

def mentions (finding : Finding) (comment : PullComment) : Bool :=
  decide (finding.handle.toList <:+: comment.body.toList)

structure PullWorld where
  thread : PullThread
  externalCommentId : Uuid → Option Nat

def PullWorld.setExternalAnchor (world : PullWorld) (findingId : Uuid) (commentExternalId : Nat) : PullWorld :=
  { world with externalCommentId := Function.update world.externalCommentId findingId (some commentExternalId) }

def PullWorld.postFinding (world : PullWorld) (finding : Finding) : PullWorld :=
  { world with thread := world.thread.post (commentKind finding) (formatFindingBody finding) (some finding.id) }

def PullWorld.anchorResidual (world : PullWorld) (existing : List PullComment) (finding : Finding) : PullWorld :=
  match existing.find? (mentions finding) with
  | some found => world.setExternalAnchor finding.id found.externalId
  | none => (world.postFinding finding).setExternalAnchor finding.id world.thread.nextId

-- `anchored` holds the anchors that the residuals were read with.
def postResiduals (existing : List PullComment) (anchored : Uuid → Option Nat) :
    PullWorld → List Finding → PullWorld × List Uuid
  | world, [] => (world, [])
  | world, finding :: rest =>
      if (anchored finding.id).isSome then postResiduals existing anchored world rest
      else
        let (world, posted) := postResiduals existing anchored (world.anchorResidual existing finding) rest
        (world, finding.id :: posted)

def findByExternalComment (findings : List Finding) (world : PullWorld) (commentExternalId : Nat) :
    Except Unit (Option Finding) :=
  match findings.filter fun row => world.externalCommentId row.id == some commentExternalId with
  | [] => .ok none
  | [row] => .ok (some row)
  | _ => .error ()

-- What goes before one run of the action: the comments written on the pull
-- request in the meantime, replies of yaaos among them, and whether its two
-- requests are answered.
structure Attempt where
  others : List (CommentKind × String)
  pageSize : Nat
  inlineOk : Bool
  topOk : Bool

def PullWorld.discussed (world : PullWorld) (others : List (CommentKind × String)) : PullWorld :=
  { world with thread := others.foldl (fun thread other => thread.post other.1 other.2 none) world.thread }

def Attempt.existing (attempt : Attempt) (world : PullWorld) : List PullComment :=
  listYaaosComments (world.discussed attempt.others).thread attempt.pageSize attempt.inlineOk attempt.topOk

def Attempt.posts (attempt : Attempt) (world : PullWorld) (residuals : List Finding) : PullWorld :=
  (postResiduals (attempt.existing world) world.externalCommentId (world.discussed attempt.others) residuals).1

-- A run that crashes behind some of the residuals: what it posted stays and
-- none of its anchors is committed.
structure Crash where
  attempt : Attempt
  handled : Nat

def PullWorld.crashed (world : PullWorld) (residuals : List Finding) (crash : Crash) : PullWorld :=
  { thread := (crash.attempt.posts world (residuals.take crash.handled)).thread,
    externalCommentId := world.externalCommentId }

def PullWorld.retried (residuals : List Finding) : PullWorld → List Crash → Attempt → PullWorld
  | world, [], last => last.posts world residuals
  | world, crash :: rest, last => PullWorld.retried residuals (world.crashed residuals crash) rest last

variable (existing : List PullComment) (residuals : List Finding) (world : PullWorld) (attempt : Attempt)
  (anchored : Uuid → Option Nat) (crashes : List Crash)

def PullWorld.own (world : PullWorld) (findingId : Uuid) : List PullComment :=
  world.thread.comments.filter fun comment => comment.findingId == some findingId

structure Untouched (before after : PullWorld) (findingId : Uuid) : Prop where
  own : after.own findingId = before.own findingId
  anchor : after.externalCommentId findingId = before.externalCommentId findingId

theorem untouched_refl (findingId : Uuid) : Untouched world world findingId := ⟨rfl, rfl⟩

theorem untouched_trans (first middle last : PullWorld) (findingId : Uuid) (left : Untouched first middle findingId)
    (right : Untouched middle last findingId) : Untouched first last findingId :=
  ⟨right.own.trans left.own, right.anchor.trans left.anchor⟩

theorem own_post (kind : CommentKind) (body : String) (origin : Option Uuid) (findingId : Uuid) :
    ({ world with thread := world.thread.post kind body origin } : PullWorld).own findingId =
      world.own findingId ++
        if origin = some findingId then
          [{ externalId := world.thread.nextId, kind := kind, body := body, findingId := origin }]
        else [] := by
  unfold PullWorld.own PullThread.post
  rw [List.filter_append]
  congr 1
  by_cases mine : origin = some findingId
  · rw [if_pos mine, List.filter_singleton, mine]
    simp
  · have foreign : (origin == some findingId) = false := by simpa using mine
    rw [if_neg mine, List.filter_singleton, foreign]
    rfl

theorem discussed_untouched (others : List (CommentKind × String)) (findingId : Uuid) :
    Untouched world (world.discussed others) findingId := by
  induction others generalizing world with
  | nil => exact untouched_refl world findingId
  | cons other rest ih =>
      let next : PullWorld := { world with thread := world.thread.post other.1 other.2 none }
      have first : Untouched world next findingId := by
        refine ⟨?_, rfl⟩
        rw [own_post, if_neg nofun, List.append_nil]
      exact untouched_trans world next _ findingId first (ih next)

inductive Handled (existing : List PullComment) (before after : PullWorld) (finding : Finding) : Option Nat → Prop where
  | kept (anchor : Nat) (untouched : Untouched before after finding.id) : Handled existing before after finding (some anchor)
  | matched (found : PullComment) (first : existing.find? (mentions finding) = some found)
      (own : after.own finding.id = before.own finding.id)
      (anchored : after.externalCommentId finding.id = some found.externalId) : Handled existing before after finding none
  | posted (comment : PullComment) (unseen : existing.find? (mentions finding) = none)
      (own : after.own finding.id = before.own finding.id ++ [comment])
      (anchored : after.externalCommentId finding.id = some comment.externalId) : Handled existing before after finding none

theorem anchorResidual_handled (finding : Finding) :
    Handled existing world (world.anchorResidual existing finding) finding none := by
  unfold PullWorld.anchorResidual
  cases first : existing.find? (mentions finding) with
  | some found =>
      refine .matched found first rfl ?_
      exact Function.update_self _ _ _
  | none =>
      let comment : PullComment :=
        { externalId := world.thread.nextId, kind := commentKind finding, body := formatFindingBody finding,
          findingId := some finding.id }
      refine .posted comment first ?_ ?_
      · change (world.postFinding finding).own finding.id = _
        rw [PullWorld.postFinding, own_post, if_pos rfl]
      · exact Function.update_self _ _ _

theorem anchorResidual_untouched (finding : Finding) (findingId : Uuid)
    (other : findingId ≠ finding.id) : Untouched world (world.anchorResidual existing finding) findingId := by
  unfold PullWorld.anchorResidual
  cases existing.find? (mentions finding) with
  | some found => exact ⟨rfl, Function.update_of_ne other _ _⟩
  | none =>
      refine ⟨?_, Function.update_of_ne other _ _⟩
      change (world.postFinding finding).own findingId = _
      rw [PullWorld.postFinding, own_post, if_neg, List.append_nil]
      rintro same
      exact other (Option.some.inj same).symm

theorem postResiduals_untouched (world : PullWorld)
    (residuals : List Finding) (findingId : Uuid) (absent : findingId ∉ residuals.map Finding.id) :
    Untouched world (postResiduals existing anchored world residuals).1 findingId := by
  induction residuals generalizing world with
  | nil => exact untouched_refl world findingId
  | cons finding rest ih =>
      rw [List.map_cons, List.mem_cons, not_or] at absent
      rw [postResiduals]
      split
      · exact ih world absent.2
      · exact untouched_trans _ _ _ _ (anchorResidual_untouched existing world finding findingId absent.1)
          (ih _ absent.2)

theorem handled_before (first middle last : PullWorld) (finding : Finding)
    (anchor : Option Nat) (left : Handled existing first middle finding anchor)
    (right : Untouched middle last finding.id) : Handled existing first last finding anchor := by
  cases left with
  | kept anchor untouched => exact .kept anchor (untouched_trans _ _ _ _ untouched right)
  | matched found seen own anchored => exact .matched found seen (right.own.trans own) (right.anchor.trans anchored)
  | posted comment unseen own anchored =>
      exact .posted comment unseen (right.own.trans own) (right.anchor.trans anchored)

theorem handled_after (first middle last : PullWorld) (finding : Finding)
    (anchor : Option Nat) (left : Untouched first middle finding.id)
    (right : Handled existing middle last finding anchor) : Handled existing first last finding anchor := by
  cases right with
  | kept anchor untouched => exact .kept anchor (untouched_trans _ _ _ _ left untouched)
  | matched found seen own anchored => exact .matched found seen (own.trans left.own) anchored
  | posted comment unseen own anchored =>
      refine .posted comment unseen ?_ anchored
      rw [own, left.own]

theorem postResiduals_handled (world : PullWorld)
    (residuals : List Finding) (distinct : (residuals.map Finding.id).Nodup) (finding : Finding)
    (member : finding ∈ residuals) :
    Handled existing world (postResiduals existing anchored world residuals).1 finding (anchored finding.id) := by
  induction residuals generalizing world with
  | nil => cases member
  | cons head rest ih =>
      rw [List.map_cons, List.nodup_cons] at distinct
      rw [postResiduals]
      rcases List.mem_cons.mp member with rfl | later
      · cases known : anchored finding.id with
        | some anchor =>
            change Handled _ _ (postResiduals existing anchored world rest).1 _ _
            exact .kept anchor (postResiduals_untouched existing anchored world rest finding.id distinct.1)
        | none =>
            change Handled _ _ (postResiduals existing anchored (world.anchorResidual existing finding) rest).1 _ _
            exact handled_before _ _ _ _ _ _ (anchorResidual_handled existing world finding)
              (postResiduals_untouched existing anchored _ rest finding.id distinct.1)
      · have other : finding.id ≠ head.id := by
          intro same
          rw [← same] at distinct
          exact distinct.1 (List.mem_map_of_mem later)
        split
        · exact ih world distinct.2 later
        · exact handled_after _ _ _ _ _ _ (anchorResidual_untouched existing world head finding.id other)
            (ih _ distinct.2 later)

theorem posts_handled (world : PullWorld) (residuals : List Finding)
    (distinct : (residuals.map Finding.id).Nodup) (finding : Finding) (member : finding ∈ residuals) :
    Handled (attempt.existing world) world (attempt.posts world residuals) finding (world.externalCommentId finding.id) :=
  handled_after _ _ _ _ _ _ (discussed_untouched world attempt.others finding.id)
    (postResiduals_handled (attempt.existing world) world.externalCommentId _ residuals distinct finding member)

structure ResidualsPosted (residuals : List Finding) (world : PullWorld) : Prop where
  own : ∀ finding ∈ residuals, ∃ comment,
    world.own finding.id = [comment] ∧ world.externalCommentId finding.id = some comment.externalId
  apart : ∀ finding ∈ residuals, ∀ other ∈ residuals, finding.id ≠ other.id →
    world.externalCommentId finding.id ≠ world.externalCommentId other.id

def Recognised (existing : List PullComment) (world : PullWorld) (finding : Finding) : Prop :=
  (world.own finding.id).map PullComment.externalId =
    match world.externalCommentId finding.id with
    | some anchor => [anchor]
    | none => (existing.find? (mentions finding)).toList.map PullComment.externalId

def NotReposted (existing : List PullComment) (world : PullWorld) (finding : Finding) : Prop :=
  world.externalCommentId finding.id = none → existing.find? (mentions finding) = none → world.own finding.id = []

-- The condition on every run of the action, each on what is there before it.
def Faithful (residuals : List Finding) : PullWorld → List Crash → Attempt → Prop
  | world, [], last => ∀ finding ∈ residuals, Recognised (last.existing world) world finding
  | world, crash :: rest, last =>
      (∀ finding ∈ residuals.take crash.handled, NotReposted (crash.attempt.existing world) world finding) ∧
        Faithful residuals (world.crashed residuals crash) rest last

theorem handled_posted (before after : PullWorld) (finding : Finding)
    (handled : Handled existing before after finding (before.externalCommentId finding.id)) :
    (∃ comment, after.own finding.id = [comment] ∧ after.externalCommentId finding.id = some comment.externalId) ↔
      Recognised existing before finding := by
  unfold Recognised
  cases known : before.externalCommentId finding.id with
  | some anchor =>
      rw [known] at handled
      cases handled with
      | kept anchor untouched =>
          rw [untouched.own, untouched.anchor, known]
          constructor
          · rintro ⟨comment, own, same⟩
            rw [own, Option.some.inj same]
            rfl
          · intro own
            obtain ⟨comment, single, same⟩ := List.map_eq_singleton_iff.mp own
            exact ⟨comment, single, by rw [same]⟩
  | none =>
      rw [known] at handled
      cases handled with
      | matched found first own anchored =>
          rw [own, anchored, first]
          constructor
          · rintro ⟨comment, single, same⟩
            rw [single]
            change [comment.externalId] = [found.externalId]
            rw [Option.some.inj same]
          · intro single
            obtain ⟨comment, alone, same⟩ := List.map_eq_singleton_iff.mp single
            exact ⟨comment, alone, by rw [same]⟩
      | posted comment unseen own anchored =>
          rw [own, anchored, unseen]
          constructor
          · rintro ⟨other, single, _⟩
            have lengths := congrArg List.length single
            rw [List.length_append, List.length_singleton, List.length_singleton] at lengths
            have none : before.own finding.id = [] := List.length_eq_zero_iff.mp (by omega)
            rw [none]
            rfl
          · intro none
            have empty : before.own finding.id = [] := List.map_eq_nil_iff.mp none
            rw [empty]
            exact ⟨comment, rfl, rfl⟩

theorem own_apart (left right : Uuid) (first second : PullComment) (mine : first ∈ world.own left)
    (yours : second ∈ world.own right) (same : first.externalId = second.externalId) : left = right := by
  obtain ⟨firstMember, firstOrigin⟩ := List.mem_filter.mp mine
  obtain ⟨secondMember, secondOrigin⟩ := List.mem_filter.mp yours
  have one : first = second := List.inj_on_of_nodup_map world.thread.distinct firstMember secondMember same
  rw [one] at firstOrigin
  have origins := (beq_iff_eq.mp firstOrigin).symm.trans (beq_iff_eq.mp secondOrigin)
  exact Option.some.inj origins

theorem posts_exact
    (distinct : (residuals.map Finding.id).Nodup) :
    ResidualsPosted residuals (attempt.posts world residuals) ↔
      ∀ finding ∈ residuals, Recognised (attempt.existing world) world finding := by
  have handled (finding : Finding) (member : finding ∈ residuals) :=
    handled_posted _ _ _ finding (posts_handled attempt world residuals distinct finding member)
  constructor
  · intro posted finding member
    exact (handled finding member).mp (posted.own finding member)
  · intro recognised
    have own (finding : Finding) (member : finding ∈ residuals) :=
      (handled finding member).mpr (recognised finding member)
    refine ⟨own, ?_⟩
    intro finding member other otherMember different same
    obtain ⟨mine, single, anchor⟩ := own finding member
    obtain ⟨yours, alone, otherAnchor⟩ := own other otherMember
    rw [anchor, otherAnchor] at same
    apply different
    exact own_apart _ _ _ mine yours (by rw [single]; exact List.mem_singleton_self _)
      (by rw [alone]; exact List.mem_singleton_self _) (Option.some.inj same)

structure Extends (before after : PullThread) : Prop where
  later : before.nextId ≤ after.nextId
  old : ∀ comment ∈ after.comments, comment.externalId < before.nextId → comment ∈ before.comments

theorem extends_refl (thread : PullThread) : Extends thread thread := ⟨le_refl _, fun _ member _ => member⟩

theorem extends_trans (first middle last : PullThread) (left : Extends first middle) (right : Extends middle last) :
    Extends first last where
  later := left.later.trans right.later
  old comment member early :=
    left.old comment (right.old comment member (early.trans_le left.later)) early

theorem extends_post (thread : PullThread) (kind : CommentKind) (body : String) (origin : Option Uuid) :
    Extends thread (thread.post kind body origin) where
  later := Nat.le_succ _
  old comment member early := by
    rcases List.mem_append.mp member with old | new
    · exact old
    · rw [List.mem_singleton.mp new] at early
      exact absurd early (Nat.lt_irrefl _)

theorem extends_discussed (others : List (CommentKind × String)) :
    Extends world.thread (world.discussed others).thread := by
  induction others generalizing world with
  | nil => exact extends_refl _
  | cons other rest ih =>
      exact extends_trans _ _ _ (extends_post world.thread other.1 other.2 none)
        (ih { world with thread := world.thread.post other.1 other.2 none })

theorem extends_postResiduals (world : PullWorld)
    (residuals : List Finding) : Extends world.thread (postResiduals existing anchored world residuals).1.thread := by
  induction residuals generalizing world with
  | nil => exact extends_refl _
  | cons finding rest ih =>
      have first : Extends world.thread (world.anchorResidual existing finding).thread := by
        unfold PullWorld.anchorResidual
        cases existing.find? (mentions finding) with
        | some found => exact extends_refl _
        | none => exact extends_post _ _ _ _
      rw [postResiduals]
      split
      · exact ih world
      · exact extends_trans _ _ _ first (ih _)

theorem extends_posts (world : PullWorld) (residuals : List Finding) :
    Extends world.thread (attempt.posts world residuals).thread :=
  extends_trans _ _ _ (extends_discussed world attempt.others) (extends_postResiduals _ _ _ residuals)

theorem retried_extends (last : Attempt) :
    Extends world.thread (PullWorld.retried residuals world crashes last).thread := by
  induction crashes generalizing world with
  | nil => exact extends_posts last world residuals
  | cons crash rest ih =>
      exact extends_trans _ _ _ (extends_posts crash.attempt world (residuals.take crash.handled))
        (ih (world.crashed residuals crash))

theorem posts_untouched (world : PullWorld) (residuals : List Finding) (findingId : Uuid)
    (absent : findingId ∉ residuals.map Finding.id) : Untouched world (attempt.posts world residuals) findingId :=
  untouched_trans _ _ _ _ (discussed_untouched world attempt.others findingId)
    (postResiduals_untouched (attempt.existing world) world.externalCommentId _ residuals findingId absent)

theorem retried_untouched (last : Attempt)
    (findingId : Uuid) (absent : findingId ∉ residuals.map Finding.id) :
    Untouched world (PullWorld.retried residuals world crashes last) findingId := by
  induction crashes generalizing world with
  | nil => exact posts_untouched last world residuals findingId absent
  | cons crash rest ih =>
      have fewer : findingId ∉ (residuals.take crash.handled).map Finding.id := fun member =>
        absent (((List.take_sublist crash.handled residuals).map Finding.id).subset member)
      have first : Untouched world (world.crashed residuals crash) findingId :=
        ⟨(posts_untouched crash.attempt world _ findingId fewer).own, rfl⟩
      exact untouched_trans _ _ _ _ first (ih (world.crashed residuals crash))

-- The anchor of another finding of the org: a comment of its own here, or one that
-- was posted elsewhere.
def Elsewhere (world : PullWorld) (other : Finding) : Prop :=
  ∀ anchor, world.externalCommentId other.id = some anchor →
    anchor ∈ (world.own other.id).map PullComment.externalId ∨
      anchor < world.thread.nextId ∧ anchor ∉ world.thread.comments.map PullComment.externalId

theorem elsewhere_apart (start : PullWorld) (crashes : List Crash) (last : Attempt)
    (other finding : Finding) (absent : other.id ∉ residuals.map Finding.id) (different : other.id ≠ finding.id)
    (elsewhere : Elsewhere start other) (comment : PullComment)
    (mine : comment ∈ (PullWorld.retried residuals start crashes last).own finding.id) :
    (PullWorld.retried residuals start crashes last).externalCommentId other.id ≠ some comment.externalId := by
  have still := retried_untouched residuals start crashes last other.id absent
  intro same
  rw [still.anchor] at same
  rcases elsewhere _ same with own | ⟨early, unseen⟩
  · obtain ⟨yours, listed, ids⟩ := List.mem_map.mp own
    rw [← still.own] at listed
    exact different (own_apart _ other.id finding.id yours comment listed mine ids)
  · have before := (retried_extends residuals start crashes last).old comment (List.mem_filter.mp mine).1 early
    exact unseen (List.mem_map_of_mem before)

theorem findByExternalComment_only (findings : Table Finding Uuid Finding.id) (world : PullWorld) (finding : Finding)
    (member : finding ∈ findings.rows) (comment : PullComment)
    (anchor : world.externalCommentId finding.id = some comment.externalId)
    (apart : ∀ row ∈ findings.rows, row.id ≠ finding.id → world.externalCommentId row.id ≠ some comment.externalId) :
    findByExternalComment findings.rows world comment.externalId = .ok (some finding) := by
  have only : ∀ row ∈ findings.rows.filter fun row => world.externalCommentId row.id == some comment.externalId,
      row = finding := by
    intro row inside
    obtain ⟨held, same⟩ := List.mem_filter.mp inside
    by_contra other
    have different : row.id ≠ finding.id := fun ids => other (Table.eq_of_key findings row finding held member ids)
    exact apart row held different (beq_iff_eq.mp same)
  have there : finding ∈ findings.rows.filter fun row => world.externalCommentId row.id == some comment.externalId :=
    List.mem_filter.mpr ⟨member, beq_iff_eq.mpr anchor⟩
  have distinct := findings.unique.of_map.filter fun row => world.externalCommentId row.id == some comment.externalId
  unfold findByExternalComment
  cases hits : findings.rows.filter fun row => world.externalCommentId row.id == some comment.externalId with
  | nil =>
      rw [hits] at there
      cases there
  | cons first rest =>
      rw [hits] at only distinct
      have mine : first = finding := only first List.mem_cons_self
      cases rest with
      | nil => rw [mine]
      | cons second others =>
          have again : second = finding := only second (List.mem_cons_of_mem _ List.mem_cons_self)
          rw [mine, again] at distinct
          exact absurd List.mem_cons_self (List.nodup_cons.mp distinct).1

-- The lookup of a reply goes through all findings of the org.
theorem posted_found (findings residuals : Table Finding Uuid Finding.id) (start : PullWorld) (crashes : List Crash)
    (last : Attempt) (held : residuals.rows ⊆ findings.rows)
    (posted : ResidualsPosted residuals.rows (PullWorld.retried residuals.rows start crashes last))
    (elsewhere : ∀ other ∈ findings.rows, other ∉ residuals.rows → Elsewhere start other)
    (finding : Finding) (member : finding ∈ residuals.rows) :
    ∃ comment, (PullWorld.retried residuals.rows start crashes last).own finding.id = [comment] ∧
      findByExternalComment findings.rows (PullWorld.retried residuals.rows start crashes last) comment.externalId =
        .ok (some finding) := by
  obtain ⟨comment, single, anchor⟩ := posted.own finding member
  refine ⟨comment, single, findByExternalComment_only findings _ finding (held member) comment anchor ?_⟩
  intro row inside different same
  by_cases residual : row ∈ residuals.rows
  · exact posted.apart row residual finding member different (same.trans anchor.symm)
  · have absent : row.id ∉ residuals.rows.map Finding.id := by
      intro known
      obtain ⟨other, listed, ids⟩ := List.mem_map.mp known
      rw [← Table.eq_of_key findings other row (held listed) inside ids] at residual
      exact residual listed
    exact elsewhere_apart residuals.rows start crashes last row finding absent different (elsewhere row inside residual)
      comment (by rw [single]; exact List.mem_singleton_self _) same

theorem posts_grows (world : PullWorld) (residuals : List Finding)
    (distinct : (residuals.map Finding.id).Nodup) (findingId : Uuid) :
    world.own findingId <+: (attempt.posts world residuals).own findingId := by
  by_cases member : findingId ∈ residuals.map Finding.id
  · obtain ⟨finding, inside, rfl⟩ := List.mem_map.mp member
    have handled := posts_handled attempt world residuals distinct finding inside
    generalize world.externalCommentId finding.id = anchor at handled
    cases handled with
    | kept anchor untouched => rw [untouched.own]
    | matched found first own anchored => rw [own]
    | posted comment unseen own anchored =>
        rw [own]
        exact List.prefix_append _ _
  · rw [(posts_untouched attempt world residuals findingId member).own]

theorem take_distinct (count : Nat) (distinct : (residuals.map Finding.id).Nodup) :
    ((residuals.take count).map Finding.id).Nodup :=
  distinct.sublist ((List.take_sublist count residuals).map Finding.id)

theorem retried_grows (last : Attempt)
    (distinct : (residuals.map Finding.id).Nodup) (findingId : Uuid) :
    world.own findingId <+: (PullWorld.retried residuals world crashes last).own findingId := by
  induction crashes generalizing world with
  | nil => exact posts_grows last world residuals distinct findingId
  | cons crash rest ih =>
      have first := posts_grows crash.attempt world _ (take_distinct residuals crash.handled distinct) findingId
      exact first.trans (ih (world.crashed residuals crash))

theorem crashed_reposted (crash : Crash)
    (distinct : (residuals.map Finding.id).Nodup) (finding : Finding) (member : finding ∈ residuals.take crash.handled)
    (single : ((world.crashed residuals crash).own finding.id).length ≤ 1) :
    NotReposted (crash.attempt.existing world) world finding := by
  intro unanchored unseen
  have handled := posts_handled crash.attempt world _ (take_distinct residuals crash.handled distinct) finding member
  rw [unanchored] at handled
  cases handled with
  | matched found first own anchored =>
      rw [unseen] at first
      cases first
  | posted comment unseen own anchored =>
      have grown : (world.crashed residuals crash).own finding.id = world.own finding.id ++ [comment] := own
      rw [grown, List.length_append, List.length_singleton] at single
      exact List.length_eq_zero_iff.mp (by omega)

-- A comment that holds the handle of a finding by chance, first on its page, is
-- taken for its own, and an own comment that no page shows is posted again.
theorem residuals_exact (residuals : Table Finding Uuid Finding.id) (start : PullWorld) (crashes : List Crash)
    (last : Attempt) :
    ResidualsPosted residuals.rows (PullWorld.retried residuals.rows start crashes last) ↔
      Faithful residuals.rows start crashes last := by
  induction crashes generalizing start with
  | nil => exact posts_exact residuals.rows start last residuals.unique
  | cons crash rest ih =>
      let next := start.crashed residuals.rows crash
      change ResidualsPosted residuals.rows (PullWorld.retried residuals.rows next rest last) ↔ _ ∧ _
      rw [ih next]
      refine ⟨fun later => ⟨?_, later⟩, fun both => both.2⟩
      intro finding member
      apply crashed_reposted residuals.rows start crash residuals.unique finding member
      obtain ⟨comment, single, _⟩ := ((ih next).mpr later).own finding (List.mem_of_mem_take member)
      have grows := (retried_grows residuals.rows next rest last residuals.unique finding.id).length_le
      rw [single] at grows
      exact grows

def reviewFinding (displayId : Nat) (body : String) : Finding :=
  { id := displayId, orgId := 2, ticketId := 3, sourceRunId := 4, sourceStageName := "review",
    sourceStageExecutionId := 5, firstSeenIteration := 1, displayPrefix := "SPEC", displayId := displayId,
    severity := .shouldFix, body := body, codeFile := none, codeLine := none, artifactSection := none,
    defectInArtifact := none, status := .opened, statusEvents := [] }

def twoResiduals : Table Finding Uuid Finding.id where
  rows := [reviewFinding 1 "same as SPEC-002", reviewFinding 2 "rename"]
  unique := by decide

def newPull : PullWorld where
  thread := { comments := [], nextId := 100, below := fun _ => nofun, distinct := List.nodup_nil }
  externalCommentId := fun _ => none

def plainAttempt : Attempt := { others := [], pageSize := 30, inlineOk := true, topOk := true }

def orgFindings : Table Finding Uuid Finding.id where
  rows := reviewFinding 3 "drop" :: twoResiduals.rows
  unique := by decide

def dismissedPull : PullWorld where
  thread :=
    { comments := [{ externalId := 90, kind := .topLevel, body := "drop", findingId := some 3 }], nextId := 100,
      below := by decide, distinct := by decide }
  externalCommentId := fun findingId => if findingId = 3 then some 90 else none

theorem posted_found_twice : ∃ comment,
    (PullWorld.retried twoResiduals.rows dismissedPull [] plainAttempt).own 1 = [comment] ∧
      findByExternalComment orgFindings.rows (PullWorld.retried twoResiduals.rows dismissedPull [] plainAttempt)
        comment.externalId = .ok (some (reviewFinding 1 "same as SPEC-002")) := by
  let last := PullWorld.retried twoResiduals.rows dismissedPull [] plainAttempt
  have anchored : ∀ finding ∈ twoResiduals.rows, (last.own finding.id).map (fun comment => some comment.externalId) =
      [last.externalCommentId finding.id] := by decide +kernel
  refine posted_found orgFindings twoResiduals dismissedPull [] plainAttempt (fun _ member => List.mem_cons_of_mem _ member)
    ⟨fun finding member => ?_, by decide +kernel⟩ (fun other member foreign => ?_) _ List.mem_cons_self
  · obtain ⟨comment, single, anchor⟩ := List.map_eq_singleton_iff.mp (anchored finding member)
    exact ⟨comment, single, anchor.symm⟩
  · rcases List.mem_cons.mp member with same | residual
    · rw [same]
      intro anchor known
      exact .inl (by rw [← Option.some.inj (show some 90 = some anchor from known)]; decide)
    · exact absurd residual foreign

-- The first comment is posted, the run crashes, and the retry takes that comment for both.
theorem second_unposted :
    ¬ ∀ (residuals : Table Finding Uuid Finding.id) (start : PullWorld) (crashes : List Crash) (last : Attempt),
      ResidualsPosted residuals.rows (PullWorld.retried residuals.rows start crashes last) := by
  intro claim
  let crash : Crash := { attempt := plainAttempt, handled := 1 }
  have posted := claim twoResiduals newPull [crash] plainAttempt
  obtain ⟨comment, single, _⟩ := posted.own (reviewFinding 2 "rename") (List.mem_cons_of_mem _ (List.mem_singleton_self _))
  have missing : (PullWorld.retried twoResiduals.rows newPull [crash] plainAttempt).own 2 = [] := by decide +kernel
  rw [show (reviewFinding 2 "rename").id = 2 from rfl, missing] at single
  cases single

end Yaaos.PrReview
