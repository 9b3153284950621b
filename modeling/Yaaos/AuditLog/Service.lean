import Yaaos.Base.Json
import Yaaos.Base.Keyset

set_option autoImplicit false

namespace Yaaos.AuditLog

open Yaaos.Base

structure AuditEntryRow where
  id : Uuid
  orgId : Uuid
  entityKind : String
  entityId : Uuid
  kind : String
  actorKind : String
  createdAt : Int
  deriving DecidableEq

def newer (left right : AuditEntryRow) : Bool :=
  decide (right.createdAt < left.createdAt ∨ right.createdAt = left.createdAt ∧ right.id ≤ left.id)

structure AuditFilter where
  orgId : Uuid
  actorKinds : List String
  actions : List String
  afterTs : Option Int

def AuditFilter.selects (filter : AuditFilter) (row : AuditEntryRow) : Bool :=
  decide (row.orgId = filter.orgId) && (filter.actorKinds.isEmpty || filter.actorKinds.contains row.actorKind) &&
    (filter.actions.isEmpty || filter.actions.contains row.kind) && filter.afterTs.all fun after => decide (after ≤ row.createdAt)

def cappedLimit (limit : Int) : Nat := (max 1 (min limit 500)).toNat

def listForOrg (entries : List AuditEntryRow) (filter : AuditFilter) (beforeTs : Option Int) (limit : Int) :
    List AuditEntryRow :=
  (((entries.mergeSort newer).filter filter.selects).filter fun row =>
    beforeTs.all fun before => decide (row.createdAt < before)).take (cappedLimit limit)

-- A reader of the audit page, who asks on below the last entry that is shown until an
-- answer is empty.
def readOn (page : Option Int → List AuditEntryRow) : Nat → Option Int → List AuditEntryRow
  | 0, _ => []
  | fuel + 1, beforeTs =>
      match (page beforeTs).getLast? with
      | none => []
      | some last => page beforeTs ++ readOn page fuel (some last.createdAt)

def readForOrg (entries : List AuditEntryRow) (filter : AuditFilter) (limit : Int) : List AuditEntryRow :=
  readOn (fun beforeTs => listForOrg entries filter beforeTs limit) entries.length none

def selectedEntries (entries : List AuditEntryRow) (filter : AuditFilter) : List AuditEntryRow :=
  (entries.mergeSort newer).filter filter.selects

theorem newer_iff (left right : AuditEntryRow) : newer left right = true ↔
    right.createdAt < left.createdAt ∨ right.createdAt = left.createdAt ∧ right.id ≤ left.id := decide_eq_true_iff

theorem newer_trans (first second third : AuditEntryRow) (left : newer first second = true)
    (right : newer second third = true) : newer first third = true := by
  rw [newer_iff] at left right ⊢
  rcases left with left | ⟨left, low⟩
  · exact .inl (right.elim (fun older => older.trans left) fun both => both.1 ▸ left)
  · rcases right with right | ⟨right, lower⟩
    · exact .inl (left ▸ right)
    · exact .inr ⟨right.trans left, lower.trans low⟩

theorem newer_total (first second : AuditEntryRow) : (newer first second || newer second first) = true := by
  rw [Bool.or_eq_true, newer_iff, newer_iff]
  rcases lt_trichotomy second.createdAt first.createdAt with older | same | later
  · exact .inl (.inl older)
  · exact (le_total second.id first.id).imp (fun low => .inr ⟨same, low⟩) fun low => .inr ⟨same.symm, low⟩
  · exact .inr (.inl later)

variable (entries : List AuditEntryRow) (filter : AuditFilter)

theorem selected_falling :
    Keyset.Falling AuditEntryRow.createdAt (selectedEntries entries filter) := by
  refine ((List.pairwise_mergeSort newer_trans newer_total entries).imp fun {left right} before => ?_).sublist
    List.filter_sublist
  exact ((newer_iff left right).mp before).elim (fun older => older.le) fun both => both.1.le

theorem readOn_walk (limit : Int) (fuel : Nat) (beforeTs : Option Int) :
    readOn (fun beforeTs => listForOrg entries filter beforeTs limit) fuel beforeTs =
      Keyset.walk AuditEntryRow.createdAt (cappedLimit limit) fuel ((selectedEntries entries filter).filter fun row =>
        beforeTs.all fun before => decide (row.createdAt < before)) := by
  induction fuel generalizing beforeTs with
  | zero => rfl
  | succ fuel ih =>
      simp only [readOn, Keyset.walk]
      have page : listForOrg entries filter beforeTs limit = ((selectedEntries entries filter).filter fun row =>
          beforeTs.all fun before => decide (row.createdAt < before)).take (cappedLimit limit) := rfl
      rw [page]
      cases ends : (((selectedEntries entries filter).filter fun row =>
          beforeTs.all fun before => decide (row.createdAt < before)).take (cappedLimit limit)).getLast? with
      | none => rfl
      | some last =>
          simp only [ih, List.filter_filter]
          congr 2
          refine List.filter_congr fun row _ => ?_
          have shown := (List.mem_filter.mp (List.mem_of_mem_take (List.mem_of_getLast? ends))).2
          cases beforeTs with
          | none => simp
          | some before =>
              simp only [Option.all_some, decide_eq_true_eq] at shown ⊢
              rw [← Bool.decide_and, decide_eq_decide]
              omega

theorem readForOrg_walk (limit : Int) :
    readForOrg entries filter limit =
      Keyset.walk AuditEntryRow.createdAt (cappedLimit limit) entries.length (selectedEntries entries filter) := by
  rw [readForOrg, readOn_walk]
  simp

theorem selected_length :
    (selectedEntries entries filter).length ≤ entries.length :=
  (List.length_filter_le _ _).trans (List.length_mergeSort entries).le

theorem cappedLimit_pos (limit : Int) : 0 < cappedLimit limit := by
  unfold cappedLimit
  omega

-- Reading on shows entries in their order and none twice, and what it leaves out was
-- created at the very moment of an entry that it shows.
theorem readForOrg_sound (limit : Int) :
    (readForOrg entries filter limit).Sublist (selectedEntries entries filter) ∧
      ∀ row ∈ selectedEntries entries filter, row ∈ readForOrg entries filter limit ∨
        ∃ shown ∈ readForOrg entries filter limit, shown.createdAt = row.createdAt := by
  rw [readForOrg_walk]
  exact ⟨Keyset.walk_sublist _ _ (selected_falling entries filter), Keyset.walk_misses _ _ (cappedLimit_pos limit)
    (selected_falling entries filter) (selected_length entries filter)⟩

-- `before_ts` alone is no place in the order: all entries are shown exactly if no
-- page ends between two entries of one transaction.
theorem readForOrg_whole_iff (limit : Int) :
    readForOrg entries filter limit = selectedEntries entries filter ↔ ∀ count newer older,
      (selectedEntries entries filter)[(count + 1) * cappedLimit limit - 1]? = some newer →
        (selectedEntries entries filter)[(count + 1) * cappedLimit limit]? = some older →
          older.createdAt < newer.createdAt := by
  rw [readForOrg_walk]
  exact Keyset.walk_whole_iff _ _ (cappedLimit_pos limit) (selected_falling entries filter) (selected_length entries filter)

end Yaaos.AuditLog
