import Mathlib.Data.List.Basic

set_option autoImplicit false

namespace Yaaos.Base

-- A machine takes one labelled step at a time. A step that raises commits
-- nothing, so only the successful ones lead anywhere. `allowed` holds what the
-- surroundings promise about the label of a step.
structure Machine (σ ι ε : Type) where
  initial : σ → Prop
  allowed : σ → ι → Prop
  step : σ → ι → Except ε σ

section Machine

variable {σ τ ι κ ε : Type}

inductive Path (machine : Machine σ ι ε) : σ → List ι → σ → Prop where
  | nil (state : σ) : Path machine state [] state
  | cons (state middle last : σ) (label : ι) (labels : List ι) (allowed : machine.allowed state label)
      (taken : machine.step state label = .ok middle) (rest : Path machine middle labels last) :
      Path machine state (label :: labels) last

def Reachable (machine : Machine σ ι ε) (state : σ) : Prop :=
  ∃ start labels, machine.initial start ∧ Path machine start labels state

-- What one committed step keeps, every path keeps.
structure Inductive (machine : Machine σ ι ε) (inv : σ → Prop) : Prop where
  initially : ∀ state, machine.initial state → inv state
  kept : ∀ state label next, inv state → machine.allowed state label →
    machine.step state label = .ok next → inv next

theorem path_keeps (machine : Machine σ ι ε) (inv : σ → Prop)
    (kept : ∀ state label next, inv state → machine.allowed state label →
      machine.step state label = .ok next → inv next)
    (first last : σ) (labels : List ι) (path : Path machine first labels last) (holds : inv first) :
    inv last := by
  induction path with
  | nil state => exact holds
  | cons state middle last label labels allowed taken rest ih =>
      exact ih (kept state label middle holds allowed taken)

theorem reachable_invariant (machine : Machine σ ι ε) (inv : σ → Prop) (inductive_ : Inductive machine inv)
    (state : σ) (reachable : Reachable machine state) : inv state := by
  obtain ⟨start, labels, initial, path⟩ := reachable
  exact path_keeps machine inv inductive_.kept start state labels path (inductive_.initially start initial)

theorem path_append (machine : Machine σ ι ε) (first middle last : σ) (left right : List ι)
    (leftPath : Path machine first left middle) (rightPath : Path machine middle right last) :
    Path machine first (left ++ right) last := by
  induction leftPath with
  | nil state => exact rightPath
  | cons state next last label labels allowed taken rest ih =>
      exact .cons state next _ label _ allowed taken (ih rightPath)

theorem path_single (machine : Machine σ ι ε) (state next : σ) (label : ι) (allowed : machine.allowed state label)
    (taken : machine.step state label = .ok next) : Path machine state [label] next :=
  .cons state next next label [] allowed taken (.nil next)

theorem reachable_step (machine : Machine σ ι ε) (state next : σ) (label : ι) (reachable : Reachable machine state)
    (allowed : machine.allowed state label) (taken : machine.step state label = .ok next) :
    Reachable machine next := by
  obtain ⟨start, labels, initial, path⟩ := reachable
  exact ⟨start, labels ++ [label], initial,
    path_append machine start state next labels [label] path (path_single machine state next label allowed taken)⟩

theorem reachable_path (machine : Machine σ ι ε) (state last : σ) (labels : List ι) (reachable : Reachable machine state)
    (path : Path machine state labels last) : Reachable machine last := by
  obtain ⟨start, before, initial, prior⟩ := reachable
  exact ⟨start, before ++ labels, initial, path_append machine start state last before labels prior path⟩

def Machine.committed (machine : Machine σ ι ε) (label : ι) (state : σ) : σ :=
  match machine.step state label with
  | .ok next => next
  | .error _ => state

theorem step_committed (machine : Machine σ ι ε) (label : ι) (state : σ)
    (taken : (machine.step state label).isOk = true) :
    machine.step state label = .ok (machine.committed label state) := by
  rw [Machine.committed]
  cases same : machine.step state label with
  | error _ =>
      rw [same] at taken
      cases taken
  | ok next => rfl

theorem reachable_committed (machine : Machine σ ι ε) (label : ι) (state : σ) (reachable : Reachable machine state)
    (allowed : machine.allowed state label) : Reachable machine (machine.committed label state) := by
  rw [Machine.committed]
  cases taken : machine.step state label with
  | error _ => exact reachable
  | ok next => exact reachable_step machine state next label reachable allowed taken

def Machine.Commits (machine : Machine σ ι ε) : σ → List ι → Prop
  | _, [] => True
  | state, label :: rest =>
      machine.allowed state label ∧ (machine.step state label).isOk = true ∧
        machine.Commits (machine.committed label state) rest

def Machine.after (machine : Machine σ ι ε) (state : σ) (labels : List ι) : σ :=
  labels.foldl (fun state label => machine.committed label state) state

theorem commits_path (machine : Machine σ ι ε) (state : σ) (labels : List ι) (commits : machine.Commits state labels) :
    Path machine state labels (machine.after state labels) := by
  induction labels generalizing state with
  | nil => exact .nil state
  | cons label rest ih =>
      obtain ⟨allowed, taken, later⟩ := commits
      exact .cons state _ _ label rest allowed (step_committed machine label state taken) (ih _ later)

def Machine.restrict (machine : Machine σ ι ε) (extra : σ → ι → Prop) : Machine σ ι ε :=
  { machine with allowed := fun state label => machine.allowed state label ∧ extra state label }

def Machine.Meets (machine : Machine σ ι ε) (extra : σ → ι → Prop) : σ → List ι → Prop
  | _, [] => True
  | state, label :: rest => extra state label ∧ machine.Meets extra (machine.committed label state) rest

def Machine.decideCommits (machine : Machine σ ι ε) [∀ state label, Decidable (machine.allowed state label)] :
    ∀ state labels, Decidable (machine.Commits state labels)
  | _, [] => isTrue trivial
  | state, label :: rest =>
      have := machine.decideCommits (machine.committed label state) rest
      inferInstanceAs (Decidable (machine.allowed state label ∧ (machine.step state label).isOk = true ∧
        machine.Commits (machine.committed label state) rest))

instance (machine : Machine σ ι ε) [∀ state label, Decidable (machine.allowed state label)] (state : σ) (labels : List ι) :
    Decidable (machine.Commits state labels) := machine.decideCommits state labels

def Machine.decideMeets (machine : Machine σ ι ε) (extra : σ → ι → Prop)
    [∀ state label, Decidable (extra state label)] : ∀ state labels, Decidable (machine.Meets extra state labels)
  | _, [] => isTrue trivial
  | state, label :: rest =>
      have := machine.decideMeets extra (machine.committed label state) rest
      inferInstanceAs (Decidable (extra state label ∧ machine.Meets extra (machine.committed label state) rest))

instance (machine : Machine σ ι ε) (extra : σ → ι → Prop) [∀ state label, Decidable (extra state label)] (state : σ)
    (labels : List ι) : Decidable (machine.Meets extra state labels) := machine.decideMeets extra state labels

theorem meets_mono (machine : Machine σ ι ε) (strong weak : σ → ι → Prop)
    (weaker : ∀ state label, strong state label → weak state label) (state : σ) (labels : List ι)
    (meets : machine.Meets strong state labels) : machine.Meets weak state labels := by
  induction labels generalizing state with
  | nil => trivial
  | cons label rest ih => exact ⟨weaker state label meets.1, ih _ meets.2⟩

theorem commits_restrict (machine : Machine σ ι ε) (extra : σ → ι → Prop) (state : σ) (labels : List ι)
    (commits : machine.Commits state labels) (meets : machine.Meets extra state labels) :
    Path (machine.restrict extra) state labels (machine.after state labels) := by
  induction labels generalizing state with
  | nil => exact .nil state
  | cons label rest ih =>
      obtain ⟨allowed, taken, later⟩ := commits
      exact .cons state _ _ label rest ⟨allowed, meets.1⟩ (step_committed machine label state taken) (ih _ later meets.2)

end Machine

end Yaaos.Base
