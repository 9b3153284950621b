import Mathlib.Data.List.Infix

set_option autoImplicit false

namespace Yaaos.Base

variable {α : Type}

def scan (opens : List α → Bool) : List α → Bool
  | [] => false
  | letter :: rest => opens (letter :: rest) || scan opens rest

theorem scan_or (first second : List α → Bool) (text : List α) :
    scan (fun rest => first rest || second rest) text = (scan first text || scan second text) := by
  induction text with
  | nil => rfl
  | cons letter rest ih =>
      rw [scan, scan, scan, ih]
      cases first (letter :: rest) <;> cases second (letter :: rest) <;> simp

def Marked (mark : α) (opens : List α → Bool) : Prop :=
  ∀ letter rest, letter ≠ mark → opens (letter :: rest) = false

variable {mark : α} {opens : List α → Bool}

theorem scan_skip (marked : Marked mark opens) (letter : α) (rest : List α) (other : letter ≠ mark) :
    scan opens (letter :: rest) = scan opens rest := by
  rw [scan, marked letter rest other, Bool.false_or]

theorem scan_plain (marked : Marked mark opens) (front back : List α) (plain : mark ∉ front) :
    scan opens (front ++ back) = scan opens back := by
  induction front with
  | nil => rfl
  | cons letter rest ih =>
      have other : letter ≠ mark := fun same => plain (by rw [same]; exact List.mem_cons_self)
      rw [List.cons_append, scan_skip marked letter _ other]
      exact ih fun inside => plain (List.mem_cons_of_mem _ inside)

theorem scan_apart (front back : List α)
    (apart : ∀ letter rest, letter :: rest <:+ front → opens (letter :: rest ++ back) = opens (letter :: rest)) :
    scan opens (front ++ back) = (scan opens front || scan opens back) := by
  induction front with
  | nil => rfl
  | cons letter rest ih =>
      have later := ih fun other others tail => apart other others (tail.trans (List.suffix_cons letter rest))
      rw [List.cons_append, scan, scan, later, ← List.cons_append, apart letter rest (List.suffix_refl _), Bool.or_assoc]

section Words

variable [DecidableEq α]

theorem word_stopped (word text rest : List α) (stop : α) (inner : stop ∉ word) (plain : stop ∉ text) :
    (word ++ [stop]).isPrefixOf (text ++ stop :: rest) = decide (word = text) := by
  induction word generalizing text with
  | nil =>
      cases text with
      | nil => simp
      | cons letter others =>
          have other : stop ≠ letter := fun same => plain (by rw [same]; exact List.mem_cons_self)
          simp [List.isPrefixOf_cons_cons, other]
  | cons first others ih =>
      have other : first ≠ stop := fun same => inner (by rw [same]; exact List.mem_cons_self)
      have inside : stop ∉ others := fun member => inner (List.mem_cons_of_mem _ member)
      cases text with
      | nil => simp [List.isPrefixOf_cons_cons, other]
      | cons letter letters =>
          have behind : stop ∉ letters := fun member => plain (List.mem_cons_of_mem _ member)
          rw [List.cons_append, List.cons_append, List.isPrefixOf_cons_cons, ih letters inside behind]
          by_cases same : first = letter <;> simp [same]

theorem word_apart (word text rest : List α) (stop : α) (inner : stop ∉ word) :
    word.isPrefixOf (text ++ stop :: rest) = word.isPrefixOf text := by
  induction word generalizing text with
  | nil => simp
  | cons first others ih =>
      have other : first ≠ stop := fun same => inner (by rw [same]; exact List.mem_cons_self)
      have inside : stop ∉ others := fun member => inner (List.mem_cons_of_mem _ member)
      cases text with
      | nil => simp [List.isPrefixOf_cons_cons, other]
      | cons letter letters => rw [List.cons_append, List.isPrefixOf_cons_cons, List.isPrefixOf_cons_cons, ih letters inside]

end Words

end Yaaos.Base
