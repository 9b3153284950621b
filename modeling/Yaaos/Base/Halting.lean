import Yaaos.Base.Machine

set_option autoImplicit false

namespace Yaaos.Base

section Halting

variable {σ ι ε : Type} (machine : Machine σ ι ε)

def Machine.Idle (state : σ) : Prop := ∀ label next, machine.allowed state label → machine.step state label ≠ .ok next

theorem leads_idle (left : σ → Nat)
    (falls : ∀ state label next, machine.allowed state label → machine.step state label = .ok next →
      left next < left state) (state : σ) :
    ∃ labels last, Path machine state labels last ∧ machine.Idle last := by
  induction size : left state using Nat.strongRecOn generalizing state with
  | ind size ih =>
      by_cases idle : machine.Idle state
      · exact ⟨[], state, .nil state, idle⟩
      · simp only [Machine.Idle, not_forall, not_not] at idle
        obtain ⟨label, next, allowed, taken⟩ := idle
        have fewer := falls state label next allowed taken
        rw [size] at fewer
        obtain ⟨labels, last, path, ended⟩ := ih (left next) fewer next rfl
        exact ⟨label :: labels, last, .cons state next last label labels allowed taken path, ended⟩

end Halting

end Yaaos.Base
