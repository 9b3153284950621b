import Mathlib.Data.List.Count
import Mathlib.Logic.Function.Iterate

set_option autoImplicit false

namespace Yaaos.Base

-- A transaction statement by statement over a shared state. Each read sees what
-- is committed when it runs, nothing is locked, and what the session holds is
-- flushed at the commit. A check refuses before anything is written; past its
-- checks a transaction says what it claims.
inductive Txn (σ ω κ ε : Type) where
  | read (next : σ → Txn σ ω κ ε)
  | ready (session : ω) (claims : κ)
  | committed (claims : κ)
  | refused (error : ε)
  | failed (error : ε) (claims : κ)

inductive Side where
  | left
  | right
  deriving DecidableEq

def Side.other : Side → Side
  | .left => .right
  | .right => .left

structure Race (σ ω κ ε : Type) where
  state : σ
  party : Side → Txn σ ω κ ε

variable {σ ω κ ε : Type}

namespace Txn

def finish (outcome : Except ε ω) (claims : κ) : Txn σ ω κ ε :=
  match outcome with
  | .ok session => .ready session claims
  | .error error => .failed error claims

def readOnce (state : σ) : Txn σ ω κ ε → Txn σ ω κ ε
  | .read next => next state
  | done => done

-- All reads of a transaction while nobody else commits.
def settle (state : σ) : Txn σ ω κ ε → Txn σ ω κ ε
  | .read next => (next state).settle state
  | done => done

def Done : Txn σ ω κ ε → Prop
  | .read _ => False
  | .ready _ _ => False
  | _ => True

def Ready : Txn σ ω κ ε → Prop
  | .ready _ _ => True
  | _ => False

def Waits (state : σ) : Nat → Txn σ ω κ ε → Prop
  | 0, _ => True
  | turns + 1, .read next => (next state).Waits state turns
  | _ + 1, txn => txn.Done

end Txn

namespace Race

variable (flush : σ → ω → σ)

def move (race : Race σ ω κ ε) (side : Side) : Race σ ω κ ε :=
  match race.party side with
  | .read next => { race with party := Function.update race.party side (next race.state) }
  | .ready session claims =>
      { state := flush race.state session, party := Function.update race.party side (.committed claims) }
  | _ => race

def run (race : Race σ ω κ ε) (schedule : List Side) : Race σ ω κ ε := schedule.foldl (move flush) race

end Race

section Moves

theorem other_ne (side : Side) : side.other ≠ side := by
  cases side <;> decide

theorem done_once (state : σ) (txn : Txn σ ω κ ε) (done : txn.Done) : txn.readOnce state = txn := by
  cases txn with
  | read next => exact done.elim
  | ready session claims => rfl
  | committed claims => rfl
  | refused error => rfl
  | failed error claims => rfl

theorem done_unready (txn : Txn σ ω κ ε) (done : txn.Done) : ¬ txn.Ready := by
  cases txn with
  | read next => exact id
  | ready session claims => exact fun _ => done
  | committed claims => exact id
  | refused error => exact id
  | failed error claims => exact id

theorem waits_unready (state : σ) (turns : Nat) (txn : Txn σ ω κ ε) (waits : txn.Waits state turns) :
    ∀ turn < turns, ¬ ((Txn.readOnce state)^[turn] txn).Ready := by
  have still (txn : Txn σ ω κ ε) (done : txn.Done) (turn : Nat) : ¬ ((Txn.readOnce state)^[turn] txn).Ready := by
    rw [Function.iterate_fixed (done_once state txn done)]
    exact done_unready txn done
  induction turns generalizing txn with
  | zero => exact fun turn below => absurd below (Nat.not_lt_zero turn)
  | succ turns ih =>
      intro turn below
      cases txn with
      | read next =>
          cases turn with
          | zero => exact id
          | succ turn =>
              rw [Function.iterate_succ_apply]
              exact ih (next state) waits turn (Nat.lt_of_succ_lt_succ below)
      | ready session claims => exact waits.elim
      | committed claims => exact still (.committed claims) trivial turn
      | refused error => exact still (.refused error) trivial turn
      | failed error claims => exact still (.failed error claims) trivial turn

variable (flush : σ → ω → σ) (race : Race σ ω κ ε)

theorem run_append (before after : List Side) :
    race.run flush (before ++ after) = (race.run flush before).run flush after := List.foldl_append

theorem move_done (side : Side) (done : (race.party side).Done) : race.move flush side = race := by
  rw [Race.move]
  cases own : race.party side with
  | read next => rw [own] at done; exact done.elim
  | ready session claims => rw [own] at done; exact done.elim
  | committed claims => rfl
  | refused error => rfl
  | failed error claims => rfl

theorem move_other (side who : Side) (different : who ≠ side) : (race.move flush side).party who = race.party who := by
  rw [Race.move]
  cases race.party side with
  | read next => exact Function.update_of_ne different _ _
  | ready session claims => exact Function.update_of_ne different _ _
  | committed claims => rfl
  | refused error => rfl
  | failed error claims => rfl

theorem move_unready (side : Side) (unready : ¬ (race.party side).Ready) :
    race.move flush side =
      { race with party := Function.update race.party side ((race.party side).readOnce race.state) } := by
  have finished (done : (race.party side).Done) : race.move flush side =
      { race with party := Function.update race.party side ((race.party side).readOnce race.state) } := by
    rw [move_done flush race side done, done_once race.state _ done, Function.update_eq_self]
  cases own : race.party side with
  | read next =>
      rw [Race.move, own]
      rfl
  | ready session claims =>
      rw [own] at unready
      exact absurd trivial unready
  | committed claims => rw [← own]; exact finished (by rw [own]; trivial)
  | refused error => rw [← own]; exact finished (by rw [own]; trivial)
  | failed error claims => rw [← own]; exact finished (by rw [own]; trivial)

theorem move_ready (side : Side) (session : ω) (claims : κ) (own : race.party side = .ready session claims) :
    race.move flush side =
      { state := flush race.state session, party := Function.update race.party side (.committed claims) } := by
  rw [Race.move, own]

theorem run_reads (schedule : List Side)
    (unready : ∀ side, ∀ turn < schedule.count side, ¬ ((Txn.readOnce race.state)^[turn] (race.party side)).Ready) :
    race.run flush schedule =
      { race with party := fun side => (Txn.readOnce race.state)^[schedule.count side] (race.party side) } := by
  induction schedule generalizing race with
  | nil => rfl
  | cons side rest ih =>
      have own : ¬ (race.party side).Ready :=
        unready side 0 (by rw [List.count_cons_self]; exact Nat.succ_pos _)
      let next : Race σ ω κ ε :=
        { race with party := Function.update race.party side ((race.party side).readOnce race.state) }
      rw [Race.run, List.foldl_cons, move_unready flush race side own]
      refine (ih next fun who turn below => ?_).trans (congrArg (Race.mk race.state) (funext fun who => ?_))
      · by_cases same : who = side
        · rw [same] at below ⊢
          simp only [next, Function.update_self]
          rw [← Function.iterate_succ_apply]
          exact unready side (turn + 1) (by rw [List.count_cons_self]; exact Nat.succ_lt_succ below)
        · simp only [next, Function.update_of_ne same]
          exact unready who turn (by rw [List.count_cons_of_ne (Ne.symm same)]; exact below)
      · by_cases same : who = side
        · rw [same]
          simp only [next, Function.update_self, List.count_cons_self, Function.iterate_succ_apply]
        · simp only [next, Function.update_of_ne same, List.count_cons_of_ne (Ne.symm same)]

theorem done_run (done : ∀ side, (race.party side).Done) (schedule : List Side) : race.run flush schedule = race := by
  induction schedule with
  | nil => rfl
  | cons side rest ih =>
      rw [Race.run, List.foldl_cons, move_done flush race side (done side)]
      exact ih

theorem done_kept (who : Side) (done : (race.party who).Done) (schedule : List Side) :
    (race.run flush schedule).party who = race.party who := by
  induction schedule generalizing race with
  | nil => rfl
  | cons side rest ih =>
      rw [Race.run, List.foldl_cons]
      by_cases same : who = side
      · rw [← same, move_done flush race who done]
        exact ih race done
      · have untouched := move_other flush race side who same
        rw [← untouched] at done ⊢
        exact ih (race.move flush side) done

end Moves

section Overtaken

variable (flush : σ → ω → σ) (side : Side) (race : Race σ ω κ ε)

theorem other_of_ne (who : Side) (different : who ≠ side) : who = side.other := by
  cases who <;> cases side <;> first | rfl | exact absurd rfl different

theorem run_last (last : Txn σ ω κ ε) (state : σ) (done : (race.party side).Done) (lastDone : last.Done)
    (moved : race.move flush side.other = ⟨state, Function.update race.party side.other last⟩)
    (schedule : List Side) (turn : side.other ∈ schedule) :
    race.run flush schedule = ⟨state, Function.update race.party side.other last⟩ := by
  induction schedule with
  | nil => cases turn
  | cons who rest ih =>
      rw [Race.run, List.foldl_cons]
      by_cases same : who = side
      · rw [same, move_done flush race side done]
        refine ih ((List.mem_cons.mp turn).resolve_left fun own => other_ne side ?_)
        rw [own, same]
      · rw [other_of_ne side who same, moved]
        refine done_run flush _ (fun party => ?_) rest
        by_cases own : party = side.other
        · rw [own]
          simp only [Function.update_self]
          exact lastDone
        · simp only [Function.update_of_ne own]
          rw [show party = side from by_contra fun different => own (other_of_ne side party different)]
          exact done

theorem refused_run (error : ε) (done : (race.party side).Done)
    (once : (race.party side.other).readOnce race.state = .refused error) (schedule : List Side)
    (turn : side.other ∈ schedule) :
    race.run flush schedule = ⟨race.state, Function.update race.party side.other (.refused error)⟩ := by
  refine run_last flush side race (.refused error) race.state done trivial ?_ schedule turn
  rw [← once]
  refine move_unready flush race side.other ?_
  cases own : race.party side.other with
  | ready session claims =>
      rw [own] at once
      cases once
  | read next => exact id
  | committed claims => exact id
  | refused reason => exact id
  | failed reason claims => exact id

theorem ready_run (session : ω) (claims : κ) (done : (race.party side).Done)
    (own : race.party side.other = .ready session claims) (schedule : List Side) (turn : side.other ∈ schedule) :
    race.run flush schedule =
      ⟨flush race.state session, Function.update race.party side.other (.committed claims)⟩ :=
  run_last flush side race (.committed claims) _ done trivial (move_ready flush race side.other session claims own) schedule
    turn

end Overtaken

end Yaaos.Base
