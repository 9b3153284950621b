import Mathlib.Data.Finset.Max

set_option autoImplicit false

namespace Yaaos.Base

-- One slot and the line in front of it: `served` are the keys that were called to
-- the slot so far, and the last of them holds it while it is held. Whoever waits,
-- waits behind a holder and behind everybody who was called.
structure Line (κ : Type) [LinearOrder κ] where
  served : List κ
  held : Bool
  waiting : Finset κ
  ordered : served.Pairwise (· < ·)
  behind : ∀ key ∈ waiting, held = true ∧ ∀ front ∈ served, front < key

namespace Line

variable {κ : Type} [LinearOrder κ]

def empty : Line κ where
  served := []
  held := false
  waiting := ∅
  ordered := .nil
  behind := by simp

theorem ordered_concat (served : List κ) (key : κ) (ordered : served.Pairwise (· < ·))
    (above : ∀ front ∈ served, front < key) : (served ++ [key]).Pairwise (· < ·) := by
  rw [List.pairwise_append]
  refine ⟨ordered, List.pairwise_singleton _ _, fun front member last same => ?_⟩
  rw [List.mem_singleton.mp same]
  exact above front member

def call (line : Line κ) (key : κ) (waiting : Finset κ) (above : ∀ front ∈ line.served, front < key)
    (ahead : ∀ other ∈ waiting, key < other) : Line κ where
  served := line.served ++ [key]
  held := true
  waiting := waiting
  ordered := ordered_concat line.served key line.ordered above
  behind := by
    intro other member
    refine ⟨rfl, fun front called => ?_⟩
    rcases List.mem_append.mp called with earlier | last
    · exact lt_trans (above front earlier) (ahead other member)
    · rw [List.mem_singleton.mp last]
      exact ahead other member

def join (line : Line κ) (key : κ) (above : ∀ front ∈ line.served, front < key) : Line κ :=
  if held : line.held = true then
    { line with
      waiting := insert key line.waiting
      behind := by
        intro other member
        rcases Finset.mem_insert.mp member with same | earlier
        · rw [same]
          exact ⟨held, above⟩
        · exact line.behind other earlier }
  else line.call key ∅ above (by simp)

def withdraw (line : Line κ) (key : κ) : Line κ :=
  { line with
    waiting := line.waiting.erase key
    behind := fun other member => line.behind other (Finset.mem_of_mem_erase member) }

def release (line : Line κ) : Line κ :=
  if some_ : line.waiting.Nonempty then
    line.call (line.waiting.min' some_) (line.waiting.erase (line.waiting.min' some_))
      (line.behind _ (Finset.min'_mem _ some_)).2 fun _ member => Finset.min'_lt_of_mem_erase_min' _ some_ member
  else { line with held := false, waiting := ∅, behind := by simp }

theorem waiting_free (line : Line κ) (free : line.held = false) : line.waiting = ∅ := by
  refine Finset.eq_empty_of_forall_notMem fun key member => ?_
  rw [(line.behind key member).1] at free
  cases free

theorem passed_over (line : Line κ) (key front : κ) (called : front ∈ line.served) (ahead : key < front) :
    key ∉ line.waiting :=
  fun member => lt_asymm ahead ((line.behind key member).2 front called)

theorem join_held (line : Line κ) (key : κ) (above : ∀ front ∈ line.served, front < key) (held : line.held = true) :
    (line.join key above).served = line.served ∧ (line.join key above).held = true ∧
      (line.join key above).waiting = insert key line.waiting := by
  rw [join, dif_pos held]
  exact ⟨rfl, held, rfl⟩

theorem join_free (line : Line κ) (key : κ) (above : ∀ front ∈ line.served, front < key) (free : line.held = false) :
    (line.join key above).served = line.served ++ [key] ∧ (line.join key above).held = true ∧
      (line.join key above).waiting = ∅ := by
  rw [join, dif_neg (by rw [free]; simp)]
  exact ⟨rfl, rfl, rfl⟩

theorem release_empty (line : Line κ) (empty : line.waiting = ∅) :
    line.release.served = line.served ∧ line.release.held = false ∧ line.release.waiting = ∅ := by
  rw [release, dif_neg (by rw [empty]; simp)]
  exact ⟨rfl, rfl, rfl⟩

theorem release_next (line : Line κ) (key : κ) (member : key ∈ line.waiting)
    (least : ∀ other ∈ line.waiting, key ≤ other) :
    line.release.served = line.served ++ [key] ∧ line.release.held = true ∧
      line.release.waiting = line.waiting.erase key := by
  have some_ : line.waiting.Nonempty := ⟨key, member⟩
  have same : line.waiting.min' some_ = key :=
    le_antisymm (Finset.min'_le _ key member) (least _ (Finset.min'_mem _ some_))
  rw [release, dif_pos some_]
  refine ⟨?_, rfl, ?_⟩
  · show line.served ++ [line.waiting.min' some_] = _
    rw [same]
  · show line.waiting.erase (line.waiting.min' some_) = _
    rw [same]

end Line

end Yaaos.Base
