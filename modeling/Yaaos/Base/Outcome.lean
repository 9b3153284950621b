import Mathlib.Data.List.Basic

set_option autoImplicit false

namespace Yaaos.Base

-- A transaction body either raises, and then the session is rolled back, or
-- returns the state to commit. `Ensures` speaks of the committed results only;
-- `Completes` also says that the body does not raise.
section Outcome

variable {ε α β : Type}

def Ensures (body : Except ε α) (post : α → Prop) : Prop :=
  ∀ result, body = .ok result → post result

def Completes (body : Except ε α) (post : α → Prop) : Prop :=
  ∃ result, body = .ok result ∧ post result

def Raises (body : Except ε α) : Prop := ∃ error, body = .error error

theorem ensures_ok (result : α) (post : α → Prop) (holds : post result) :
    Ensures (.ok result : Except ε α) post := by
  intro other same
  cases same
  exact holds

theorem ensures_error (error : ε) (post : α → Prop) : Ensures (.error error : Except ε α) post := by
  intro other same
  cases same

variable (body : Except ε α) (rest : α → Except ε β)

theorem ensures_mono (weak strong : α → Prop) (ensured : Ensures body strong)
    (weaker : ∀ result, strong result → weak result) : Ensures body weak :=
  fun result same => weaker result (ensured result same)

theorem ensures_bind (middle : α → Prop) (post : β → Prop)
    (first : Ensures body middle) (second : ∀ result, middle result → Ensures (rest result) post) :
    Ensures (body >>= rest) post := by
  cases body with
  | error error => exact ensures_error error post
  | ok result => exact second result (first result rfl)

theorem bind_eq_ok (last : β) (done : (body >>= rest) = .ok last) :
    ∃ result, body = .ok result ∧ rest result = .ok last := by
  cases body with
  | error error => cases done
  | ok result => exact ⟨result, rfl, done⟩

theorem map_eq_ok (next : α → β) (last : β) (done : body.map next = .ok last) :
    ∃ result, body = .ok result ∧ next result = last := by
  cases body with
  | error error => cases done
  | ok result => exact ⟨result, rfl, Except.ok.inj done⟩

theorem ensures_read (post : β → Prop)
    (second : ∀ result, body = .ok result → Ensures (rest result) post) : Ensures (body >>= rest) post :=
  ensures_bind body rest (fun result => body = .ok result) post (fun _ same => same) second

theorem ensures_map (next : α → β) (post : β → Prop)
    (first : Ensures body fun result => post (next result)) : Ensures (body.map next) post := by
  cases body with
  | error error => exact ensures_error error post
  | ok result => exact ensures_ok (next result) post (first result rfl)

theorem completes_ensures (post : α → Prop) (completed : Completes body post) :
    Ensures body post := by
  obtain ⟨result, same, holds⟩ := completed
  rw [same]
  exact ensures_ok result post holds

theorem completes_ok (result : α) (post : α → Prop) (holds : post result) :
    Completes (.ok result : Except ε α) post := ⟨result, rfl, holds⟩

theorem completes_map (next : α → β) (post : β → Prop)
    (first : Completes body fun result => post (next result)) : Completes (body.map next) post := by
  obtain ⟨result, same, holds⟩ := first
  rw [same]
  exact completes_ok (next result) post holds

theorem completes_mono (weak strong : α → Prop) (completed : Completes body strong)
    (weaker : ∀ result, strong result → weak result) : Completes body weak := by
  obtain ⟨result, same, holds⟩ := completed
  exact ⟨result, same, weaker result holds⟩

theorem completes_and (left right : α → Prop) (completed : Completes body left)
    (ensured : Ensures body right) : Completes body fun result => left result ∧ right result := by
  obtain ⟨result, same, holds⟩ := completed
  exact ⟨result, same, holds, ensured result same⟩

theorem completes_bind (middle : α → Prop) (post : β → Prop)
    (first : Completes body middle) (second : ∀ result, middle result → Completes (rest result) post) :
    Completes (body >>= rest) post := by
  obtain ⟨result, same, holds⟩ := first
  rw [same]
  exact second result holds

end Outcome

end Yaaos.Base
