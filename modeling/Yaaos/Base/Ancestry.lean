import Mathlib.Data.List.Basic

set_option autoImplicit false

namespace Yaaos.Base

section Ancestry

variable {κ : Type} (parents : κ → List κ)

def within : Nat → κ → List κ
  | 0, _ => []
  | depth + 1, tip => tip :: (parents tip).flatMap (within depth)

theorem mem_within_one (tip node : κ) : node ∈ within parents 1 tip ↔ node = tip := by
  simp [within]

theorem mem_within_two (tip node : κ) : node ∈ within parents 2 tip ↔ node = tip ∨ node ∈ parents tip := by
  simp [within]

end Ancestry

end Yaaos.Base
