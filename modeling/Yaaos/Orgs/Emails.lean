import Mathlib.Data.List.Basic
import Yaaos.Base.Machine
import Yaaos.Orgs.Types

set_option autoImplicit false

namespace Yaaos.Orgs

open Yaaos.Base

abbrev EmailTable := Table UserEmailRow Uuid UserEmailRow.id

def UserEmailRow.verifiedFor (userId : Uuid) (row : UserEmailRow) : Bool := row.userId == userId && row.verifiedAt.isSome

def countVerifiedEmails (emails : EmailTable) (userId : Uuid) : Nat := emails.rows.countP (UserEmailRow.verifiedFor userId)

def ownEmail (emails : EmailTable) (userId emailId : Uuid) : Option UserEmailRow :=
  (emails.find? emailId).filter fun row => row.userId == userId

def deleteEmail (emails : EmailTable) (userId emailId : Uuid) : EmailTable :=
  emails.delete fun row => row.id == emailId && row.userId == userId

inductive EmailError where
  | emailNotFound
  | lastVerifiedEmail
  deriving DecidableEq

-- Where a request stands before its next statement. `verified` tells what the row
-- it has selected was.
inductive Removal where
  | selecting
  | counting
  | deleting (verified : Bool)
  | committing (verified : Bool)
  | answered (error : Option EmailError)
  deriving DecidableEq

structure EmailRequest where
  userId : Uuid
  emailId : Uuid
  stage : Removal

structure EmailWorld where
  emails : EmailTable
  requests : List EmailRequest

inductive EmailLabel where
  | arrive (userId emailId : Uuid)
  | advance (index : Nat)

def EmailWorld.stand (world : EmailWorld) (index : Nat) (request : EmailRequest) (stage : Removal) : EmailWorld :=
  { world with requests := world.requests.set index { request with stage := stage } }

-- A deleted row is locked until the session that deletes it has committed.
def EmailRequest.locks (emailId : Uuid) (request : EmailRequest) : Bool :=
  match request.stage with
  | .committing _ => request.emailId == emailId
  | _ => false

-- The next statement of `remove_email`. What a session deletes is gone at its commit.
def removeEmail (world : EmailWorld) (index : Nat) (request : EmailRequest) : Except Unit EmailWorld :=
  match request.stage with
  | .selecting => match ownEmail world.emails request.userId request.emailId with
      | none => .ok (world.stand index request (.answered (some .emailNotFound)))
      | some row => .ok (world.stand index request (if row.verifiedAt.isSome then .counting else .deleting false))
  | .counting =>
      if countVerifiedEmails world.emails request.userId ≤ 1 then
        .ok (world.stand index request (.answered (some .lastVerifiedEmail)))
      else .ok (world.stand index request (.deleting true))
  | .deleting verified =>
      if world.requests.any (EmailRequest.locks request.emailId) then .error ()
      else match ownEmail world.emails request.userId request.emailId with
        | none => .ok (world.stand index request (.answered (some .emailNotFound)))
        | some _ => .ok (world.stand index request (.committing verified))
  | .committing _ =>
      .ok { world.stand index request (.answered none) with
        emails := deleteEmail world.emails request.userId request.emailId }
  | .answered _ => .error ()

def emailStep (world : EmailWorld) : EmailLabel → Except Unit EmailWorld
  | .arrive userId emailId =>
      .ok { world with requests := world.requests ++ [{ userId := userId, emailId := emailId, stage := .selecting }] }
  | .advance index => match world.requests[index]? with
      | some request => removeEmail world index request
      | none => .error ()

def emailMachine : Machine EmailWorld EmailLabel Unit where
  initial := fun world => world.requests = []
  allowed := fun _ _ => True
  step := emailStep

instance (world : EmailWorld) (label : EmailLabel) : Decidable (emailMachine.allowed world label) :=
  inferInstanceAs (Decidable True)

def Removal.counted : Removal → Bool
  | .deleting verified | .committing verified => verified
  | _ => false

def Removal.uncounted : Removal → Bool
  | .deleting verified | .committing verified => !verified
  | _ => false

def EmailWorld.spares (world : EmailWorld) (userId : Uuid) (row : UserEmailRow) : Bool :=
  row.verifiedFor userId && world.requests.all fun request =>
    !(request.userId == userId && request.stage.counted && request.emailId == row.id)

def countsAfresh (world : EmailWorld) : EmailLabel → Bool
  | .arrive _ _ => true
  | .advance index => match world.requests[index]? with
      | none => true
      | some request =>
          request.stage ≠ .counting || decide (countVerifiedEmails world.emails request.userId ≤ 1) ||
            world.emails.rows.any fun row => row.id != request.emailId && world.spares request.userId row

def CountsAfresh (world : EmailWorld) (label : EmailLabel) : Prop := countsAfresh world label = true

instance (world : EmailWorld) (label : EmailLabel) : Decidable (CountsAfresh world label) :=
  inferInstanceAs (Decidable (countsAfresh world label = true))

structure Spared (userId : Uuid) (world : EmailWorld) : Prop where
  spared : ∃ row ∈ world.emails.rows, row.verifiedFor userId = true ∧ ∀ request ∈ world.requests,
    request.userId = userId → request.stage.counted = true → request.emailId ≠ row.id
  unverified : ∀ request ∈ world.requests, request.stage.uncounted = true →
    ∀ row ∈ world.emails.rows, row.id = request.emailId → row.verifiedAt = none

section Steps

variable (userId : Uuid) (world : EmailWorld) (index : Nat) (request : EmailRequest)

theorem spares_iff (row : UserEmailRow) : world.spares userId row = true ↔
    row.verifiedFor userId = true ∧ ∀ request ∈ world.requests, request.userId = userId →
      request.stage.counted = true → request.emailId ≠ row.id := by
  simp only [EmailWorld.spares, Bool.and_eq_true, List.all_eq_true, Bool.not_eq_true', Bool.and_eq_false_iff, beq_eq_false_iff_ne,
    ne_eq]
  refine and_congr_right fun _ => forall₂_congr fun request _ => ?_
  by_cases own : request.userId = userId <;> cases request.stage.counted <;> simp [own]

theorem ownEmail_some (emails : EmailTable) (emailId : Uuid) (row : UserEmailRow)
    (found : ownEmail emails userId emailId = some row) : emails.find? emailId = some row :=
  (Option.filter_eq_some_iff.mp found).1

theorem stand_spared (holds : Spared userId world) (member : request ∈ world.requests) (stage : Removal)
    (counts : stage.counted = true → request.stage.counted = true)
    (uncounts : stage.uncounted = true → ∀ row ∈ world.emails.rows, row.id = request.emailId → row.verifiedAt = none) :
    Spared userId (world.stand index request stage) := by
  obtain ⟨row, held, verified, untouched⟩ := holds.spared
  constructor
  · refine ⟨row, held, verified, fun other present own was => ?_⟩
    cases List.mem_or_eq_of_mem_set present with
    | inl old => exact untouched other old own was
    | inr new =>
        subst new
        exact untouched request member own (counts was)
  · intro other present was
    cases List.mem_or_eq_of_mem_set present with
    | inl old => exact holds.unverified other old was
    | inr new =>
        subst new
        exact uncounts was

theorem answered_spared (holds : Spared userId world) (member : request ∈ world.requests) (error : Option EmailError) :
    Spared userId (world.stand index request (.answered error)) := by
  refine stand_spared userId world index request holds member _ (fun was => ?_) fun was => ?_
  · cases was
  · cases was

theorem counting_spared (holds : Spared userId world) (row : UserEmailRow) (held : row ∈ world.emails.rows)
    (different : row.id ≠ request.emailId) (spares : world.spares request.userId row = true) :
    Spared userId (world.stand index request (.deleting true)) := by
  constructor
  · by_cases mine : request.userId = userId
    · rw [mine] at spares
      obtain ⟨verified, untouched⟩ := (spares_iff userId world row).mp spares
      refine ⟨row, held, verified, fun other present own was => ?_⟩
      cases List.mem_or_eq_of_mem_set present with
      | inl old => exact untouched other old own was
      | inr new =>
          subst new
          exact different.symm
    · obtain ⟨row, held, verified, untouched⟩ := holds.spared
      refine ⟨row, held, verified, fun other present own was => ?_⟩
      cases List.mem_or_eq_of_mem_set present with
      | inl old => exact untouched other old own was
      | inr new =>
          subst new
          exact absurd own mine
  · intro other present was
    cases List.mem_or_eq_of_mem_set present with
    | inl old => exact holds.unverified other old was
    | inr new =>
        subst new
        cases was

theorem committing_spared (holds : Spared userId world) (member : request ∈ world.requests) (verified : Bool)
    (committing : request.stage = .committing verified) :
    Spared userId { world.stand index request (.answered none) with
      emails := deleteEmail world.emails request.userId request.emailId } := by
  have answered := answered_spared userId world index request holds member none
  obtain ⟨row, held, good, untouched⟩ := holds.spared
  have kept : row ∈ (deleteEmail world.emails request.userId request.emailId).rows := by
    refine List.mem_filter.mpr ⟨held, ?_⟩
    by_contra taken
    have both : row.id = request.emailId ∧ row.userId = request.userId := by simpa using taken
    have facts : row.userId = userId ∧ row.verifiedAt.isSome = true := by simpa [UserEmailRow.verifiedFor] using good
    cases verified with
    | true =>
        refine untouched request member (both.2.symm.trans facts.1) ?_ both.1.symm
        rw [committing]
        rfl
    | false =>
        have none_ := holds.unverified request member (by rw [committing]; rfl) row held both.1
        rw [none_] at facts
        cases facts.2
  constructor
  · refine ⟨row, kept, good, fun other present own was => ?_⟩
    cases List.mem_or_eq_of_mem_set present with
    | inl old => exact untouched other old own was
    | inr new =>
        subst new
        cases was
  · intro other present was row still
    exact answered.unverified other present was row (List.mem_of_mem_filter still)

theorem removeEmail_spared (holds : Spared userId world) (there : world.requests[index]? = some request)
    (afresh : CountsAfresh world (.advance index)) (next : EmailWorld)
    (taken : removeEmail world index request = .ok next) : Spared userId next := by
  have member := List.mem_of_getElem? there
  have uncounted (verified : Bool) (was : request.stage = .deleting verified) (unverified : verified = false) :
      ∀ row ∈ world.emails.rows, row.id = request.emailId → row.verifiedAt = none := by
    refine holds.unverified request member ?_
    rw [was, unverified]
    rfl
  cases stage : request.stage with
  | selecting =>
      rw [removeEmail, stage] at taken
      dsimp only at taken
      split at taken
      · cases taken
        exact answered_spared userId world index request holds member _
      · rename_i row found
        cases taken
        obtain ⟨held, named⟩ := Table.find?_some world.emails request.emailId row
          (ownEmail_some request.userId world.emails request.emailId row found)
        refine stand_spared userId world index request holds member _ ?_ ?_
        · split <;> exact fun was => absurd was (by decide)
        · intro was other present same
          have one := world.emails.eq_of_key other row present held (same.trans named.symm)
          rw [one]
          by_contra some_
          rw [if_pos (Option.isSome_iff_ne_none.mpr some_)] at was
          cases was
  | counting =>
      rw [removeEmail, stage] at taken
      dsimp only at taken
      split at taken
      · cases taken
        exact answered_spared userId world index request holds member _
      · rename_i several
        cases taken
        have spare : ∃ row ∈ world.emails.rows, row.id ≠ request.emailId ∧ world.spares request.userId row = true := by
          simpa [CountsAfresh, countsAfresh, there, stage, several] using afresh
        obtain ⟨row, held, different, spares⟩ := spare
        exact counting_spared userId world index request holds row held different spares
  | deleting verified =>
      rw [removeEmail, stage] at taken
      dsimp only at taken
      split at taken
      · cases taken
      · split at taken
        · cases taken
          exact answered_spared userId world index request holds member _
        · cases taken
          refine stand_spared userId world index request holds member _ (fun was => ?_) fun was => ?_
          · rw [stage]
            exact was
          · exact uncounted verified stage (by simpa [Removal.uncounted] using was)
  | committing verified =>
      rw [removeEmail, stage] at taken
      cases taken
      exact committing_spared userId world index request holds member verified stage
  | answered error =>
      rw [removeEmail, stage] at taken
      cases taken

theorem emailStep_spared (label : EmailLabel) (next : EmailWorld) (holds : Spared userId world)
    (allowed : (emailMachine.restrict CountsAfresh).allowed world label)
    (taken : (emailMachine.restrict CountsAfresh).step world label = .ok next) : Spared userId next := by
  cases label with
  | arrive user email =>
      cases taken
      obtain ⟨row, held, verified, untouched⟩ := holds.spared
      constructor
      · refine ⟨row, held, verified, fun request present own was => ?_⟩
        cases List.mem_append.mp present with
        | inl old => exact untouched request old own was
        | inr new =>
            rw [List.mem_singleton.mp new] at was
            cases was
      · intro request present was
        cases List.mem_append.mp present with
        | inl old => exact holds.unverified request old was
        | inr new =>
            rw [List.mem_singleton.mp new] at was
            cases was
  | advance index =>
      have stepped : emailStep world (.advance index) = .ok next := taken
      rw [emailStep] at stepped
      split at stepped
      · rename_i request there
        exact removeEmail_spared userId world index request holds there allowed.2 next stepped
      · cases stepped

end Steps

theorem verified_email_kept (start last : EmailWorld) (labels : List EmailLabel) (userId : Uuid)
    (initial : emailMachine.initial start) (verified : 0 < countVerifiedEmails start.emails userId)
    (path : Path (emailMachine.restrict CountsAfresh) start labels last) :
    0 < countVerifiedEmails last.emails userId := by
  have before : Spared userId start := by
    obtain ⟨row, held, good⟩ := List.countP_pos_iff.mp verified
    have nobody : start.requests = [] := initial
    constructor
    · refine ⟨row, held, good, fun request present => ?_⟩
      rw [nobody] at present
      cases present
    · intro request present
      rw [nobody] at present
      cases present
  have after := path_keeps _ (Spared userId)
    (fun state label next holds allowed taken => emailStep_spared userId state label next holds allowed taken)
    start last labels path before
  obtain ⟨row, held, good, _⟩ := after.spared
  exact List.countP_pos_iff.mpr ⟨row, held, good⟩

def twoEmails : EmailWorld where
  emails := { rows := [{ id := 1, userId := 7, email := "a@x.io", verifiedAt := some 0 },
                       { id := 2, userId := 7, email := "b@x.io", verifiedAt := some 0 }], unique := by decide }
  requests := []

def overlapping : List EmailLabel :=
  [.arrive 7 1, .arrive 7 2, .advance 0, .advance 1, .advance 0, .advance 1, .advance 0, .advance 1, .advance 0, .advance 1]

def threeEmails : EmailWorld where
  emails := { rows := { id := 3, userId := 7, email := "c@x.io", verifiedAt := some 0 } :: twoEmails.emails.rows
              unique := by decide }
  requests := []

theorem verified_email_kept_third : 0 < countVerifiedEmails (emailMachine.after threeEmails overlapping).emails 7 :=
  verified_email_kept threeEmails (emailMachine.after threeEmails overlapping) overlapping 7 rfl (by decide)
    (commits_restrict emailMachine CountsAfresh threeEmails overlapping (by decide) (by decide))

theorem verified_emails_lost : emailMachine.initial twoEmails ∧ 0 < countVerifiedEmails twoEmails.emails 7 ∧
    emailMachine.Commits twoEmails overlapping ∧
    (∀ request ∈ (emailMachine.after twoEmails overlapping).requests, request.stage = .answered none) ∧
    countVerifiedEmails (emailMachine.after twoEmails overlapping).emails 7 = 0 :=
  ⟨rfl, by decide, by decide, by decide, by decide⟩

end Yaaos.Orgs
