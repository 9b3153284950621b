import Mathlib.Data.List.Basic

set_option autoImplicit false

namespace Yaaos.Sse

variable {Event : Type}

structure Session (Event : Type) where
  pending : Option (List Event)
  published : List Event

def Session.opened : Session Event := { pending := none, published := [] }

inductive Act (Event : Type) where
  | queue (event : Event)
  | commit
  | rollback
  | work
  deriving DecidableEq

def publishGeneralAfterCommit (session : Session Event) (event : Event) : Session Event :=
  { session with pending := some (session.pending.getD [] ++ [event]) }

-- AsyncSession.commit is awaited, so there is a running loop.
def flushGeneralPending (session : Session Event) : Session Event :=
  { pending := none, published := session.published ++ session.pending.getD [] }

-- `after_commit` is the only hook: a rollback leaves `session.info` alone.
def Session.act (session : Session Event) : Act Event → Session Event
  | .queue event => publishGeneralAfterCommit session event
  | .commit => flushGeneralPending session
  | .rollback => session
  | .work => session

def Session.run (session : Session Event) (acts : List (Act Event)) : Session Event := acts.foldl Session.act session

def due (queued : List Event) : List (Act Event) → List Event
  | [] => []
  | .queue event :: rest => due (queued ++ [event]) rest
  | .commit :: rest => queued ++ due [] rest
  | .rollback :: rest => due [] rest
  | .work :: rest => due queued rest

def DiscardsLast (queued : List Event) : List (Act Event) → Prop
  | [] => True
  | .queue event :: rest => DiscardsLast (queued ++ [event]) rest
  | .commit :: rest => DiscardsLast [] rest
  | .rollback :: rest => (queued ≠ [] → .commit ∉ rest) ∧ DiscardsLast [] rest
  | .work :: rest => DiscardsLast queued rest

def flushed (pending : List Event) : List (Act Event) → List Event
  | [] => []
  | .queue event :: rest => flushed (pending ++ [event]) rest
  | .commit :: rest => pending ++ flushed [] rest
  | .rollback :: rest => flushed pending rest
  | .work :: rest => flushed pending rest

theorem run_flushed (session : Session Event) (acts : List (Act Event)) :
    (session.run acts).published = session.published ++ flushed (session.pending.getD []) acts := by
  induction acts generalizing session with
  | nil => exact (List.append_nil session.published).symm
  | cons act rest ih =>
      have step : (session.run (act :: rest)).published = ((session.act act).run rest).published := rfl
      rw [step, ih]
      cases act with
      | commit => exact List.append_assoc _ _ _
      | _ => rfl

theorem flushed_length (stale queued : List Event) (acts : List (Act Event)) :
    (due queued acts).length ≤ (flushed (stale ++ queued) acts).length := by
  induction acts generalizing stale queued with
  | nil => exact Nat.le_refl 0
  | cons act rest ih =>
      cases act with
      | queue event =>
          rw [due, flushed, List.append_assoc]
          exact ih stale (queued ++ [event])
      | commit =>
          simp only [due, flushed, List.length_append]
          have later := ih [] []
          rw [List.append_nil] at later
          omega
      | rollback =>
          have later := ih (stale ++ queued) []
          rw [List.append_nil] at later
          exact later
      | work => exact ih stale queued

theorem flushed_due_iff (stale queued : List Event) (acts : List (Act Event)) :
    flushed (stale ++ queued) acts = due queued acts ↔
      (stale ≠ [] → .commit ∉ acts) ∧ DiscardsLast queued acts := by
  induction acts generalizing stale queued with
  | nil => simp [flushed, due, DiscardsLast]
  | cons act rest ih =>
      cases act with
      | queue event =>
          rw [due, flushed, DiscardsLast, List.append_assoc, ih]
          simp
      | work =>
          rw [due, flushed, DiscardsLast, ih]
          simp
      | rollback =>
          have later := ih (stale ++ queued) []
          rw [List.append_nil] at later
          rw [due, flushed, DiscardsLast, later, ← and_assoc]
          refine and_congr_left fun _ => ?_
          simp only [ne_eq, List.append_eq_nil_iff, List.mem_cons, reduceCtorEq, false_or]
          by_cases none_ : stale = [] <;> by_cases quiet : queued = [] <;> simp [none_, quiet]
      | commit =>
          have later := ih [] []
          rw [List.append_nil] at later
          have longer := flushed_length [] [] rest
          rw [List.append_nil] at longer
          rw [due, flushed, DiscardsLast]
          constructor
          · intro same
            have fresh : stale = [] := by
              have lengths := congrArg List.length same
              simp only [List.length_append] at lengths
              exact List.eq_nil_of_length_eq_zero (by omega)
            rw [fresh, List.nil_append] at same
            exact ⟨fun leftover => absurd fresh leftover, (later.mp (List.append_cancel_left same)).2⟩
          · rintro ⟨committed, discards⟩
            have fresh : stale = [] := by
              by_contra leftover
              exact committed leftover List.mem_cons_self
            rw [fresh, List.nil_append, later.mpr ⟨fun some_ => absurd rfl some_, discards⟩]

theorem published_follow_commits_iff (acts : List (Act Event)) :
    (Session.opened.run acts).published = due [] acts ↔ DiscardsLast [] acts := by
  have flushes := flushed_due_iff [] [] acts
  rw [List.append_nil] at flushes
  rw [run_flushed]
  exact flushes.trans ⟨And.right, fun discards => ⟨fun some_ => absurd rfl some_, discards⟩⟩

-- The event of a transaction that was rolled back goes out with the next commit.
theorem discarded_published :
    (Session.opened.run [.queue "ticket_updated", .rollback, .work, .commit]).published ≠
      due [] [.queue "ticket_updated", .rollback, .work, .commit] := by
  decide

end Yaaos.Sse
