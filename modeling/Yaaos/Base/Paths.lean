import Mathlib.Data.List.DropRight
import Mathlib.Data.List.Infix

set_option autoImplicit false

namespace Yaaos.Base

-- The letters of paths that have a meaning of their own.
structure PathMarks (α : Type) where
  slash : α
  dot : α
  apart : slash ≠ dot

namespace PathMarks

variable {α : Type} (marks : PathMarks α)

def here : List α := [marks.dot]

def up : List α := [marks.dot, marks.dot]

structure Plain (name : List α) : Prop where
  filled : name ≠ []
  notHere : name ≠ marks.here
  notUp : name ≠ marks.up
  whole : marks.slash ∉ name

inductive Stacked (rooted : Bool) : List (List α) → Prop where
  | steps (count : Nat) (grounded : rooted = true → count = 0) : Stacked rooted (List.replicate count marks.up)
  | name (last : List α) (rest : List (List α)) (plain : marks.Plain last) (stacked : Stacked rooted rest) :
      Stacked rooted (last :: rest)

theorem up_filled : marks.up ≠ [] := by simp [up]

theorem up_notHere : marks.up ≠ marks.here := by simp [up, here]

theorem up_whole : marks.slash ∉ marks.up := by simp [up, marks.apart]

theorem here_whole : marks.slash ∉ marks.here := by simp [here, marks.apart]

theorem stacked_rooted (names : List (List α)) (stacked : marks.Stacked true names) :
    ∀ name ∈ names, marks.Plain name := by
  induction stacked with
  | name last rest plain _ ih =>
      intro other member
      rcases List.mem_cons.mp member with same | later
      · rw [same]
        exact plain
      · exact ih other later
  | steps count grounded =>
      rw [grounded rfl]
      exact fun _ => nofun

theorem stacked_element (rooted : Bool) (names : List (List α)) (stacked : marks.Stacked rooted names) :
    ∀ name ∈ names, marks.Plain name ∨ name = marks.up := by
  induction stacked with
  | name last rest plain _ ih =>
      intro other member
      rcases List.mem_cons.mp member with same | later
      · rw [same]
        exact .inl plain
      · exact ih other later
  | steps count grounded => exact fun name member => .inr (List.eq_of_mem_replicate member)

theorem stacked_whole (rooted : Bool) (names : List (List α)) (stacked : marks.Stacked rooted names.reverse) :
    ∀ name ∈ names, name ≠ [] ∧ marks.slash ∉ name := by
  intro name member
  rcases marks.stacked_element rooted names.reverse stacked name (List.mem_reverse.mpr member) with plain | isUp
  · exact ⟨plain.filled, plain.whole⟩
  · rw [isUp]
    exact ⟨marks.up_filled, marks.up_whole⟩

theorem intercalate_concat (names : List (List α)) (last : List α) (filled : names ≠ []) :
    [marks.slash].intercalate (names ++ [last]) = [marks.slash].intercalate names ++ marks.slash :: last := by
  induction names with
  | nil => exact absurd rfl filled
  | cons first rest ih =>
      by_cases empty : rest = []
      · rw [empty]
        simp
      · rw [List.cons_append, List.intercalate_cons_of_ne_nil (List.append_ne_nil_of_left_ne_nil empty _), ih empty,
          List.intercalate_cons_of_ne_nil empty]
        simp

theorem stacked_tail (rooted : Bool) (last : List α) (rest : List (List α)) (stacked : marks.Stacked rooted (last :: rest)) :
    marks.Stacked rooted rest := by
  generalize same : last :: rest = names at stacked
  cases stacked with
  | name other others _ below =>
      rw [(List.cons.inj same).2]
      exact below
  | steps count grounded =>
      cases count with
      | zero => exact absurd same (List.cons_ne_nil _ _)
      | succ count =>
          rw [List.replicate_succ] at same
          rw [(List.cons.inj same).2]
          exact .steps count fun isRooted => absurd (grounded isRooted) (Nat.succ_ne_zero count)

theorem prefix_whole (text front back : List α) (whole : marks.slash ∉ text) :
    text <+: front ++ marks.slash :: back ↔ text <+: front := by
  induction text generalizing front with
  | nil => simp
  | cons letter rest ih =>
      have other : letter ≠ marks.slash := fun same => whole (by rw [same]; exact List.mem_cons_self)
      have inner : marks.slash ∉ rest := fun inside => whole (List.mem_cons_of_mem _ inside)
      cases front with
      | nil => simp [List.cons_prefix_cons, other]
      | cons first others => rw [List.cons_append, List.cons_prefix_cons, List.cons_prefix_cons, ih others inner]

theorem infix_whole (text front back : List α) (whole : marks.slash ∉ front) :
    marks.slash :: text <:+: front ++ marks.slash :: back ↔ text <+: back ∨ marks.slash :: text <:+: back := by
  induction front with
  | nil => rw [List.nil_append, List.infix_cons_iff, List.cons_prefix_cons, and_iff_right rfl]
  | cons letter rest ih =>
      have other : marks.slash ≠ letter := fun same => whole (by rw [same]; exact List.mem_cons_self)
      have inner : marks.slash ∉ rest := fun inside => whole (List.mem_cons_of_mem _ inside)
      rw [List.cons_append, List.infix_cons_iff, List.cons_prefix_cons, ih inner]
      simp [other]

theorem begins_iff (text : List α) (names : List (List α)) (whole : marks.slash ∉ text) (filled : names ≠ [])
    (apart : ∀ name ∈ names, marks.slash ∉ name) :
    (text <+: [marks.slash].intercalate names ∨ marks.slash :: text <:+: [marks.slash].intercalate names) ↔
      ∃ name ∈ names, text <+: name := by
  induction names with
  | nil => exact absurd rfl filled
  | cons first rest ih =>
      have own := apart first List.mem_cons_self
      by_cases empty : rest = []
      · rw [empty, List.intercalate_singleton]
        have absent : ¬ marks.slash :: text <:+: first := fun inside => own (inside.subset List.mem_cons_self)
        simp [absent]
      · have later := ih empty fun name member => apart name (List.mem_cons_of_mem _ member)
        have split : [marks.slash].intercalate (first :: rest) =
            first ++ marks.slash :: [marks.slash].intercalate rest := by
          rw [List.intercalate_cons_of_ne_nil empty]
          simp
        rw [split, marks.prefix_whole text first _ whole, marks.infix_whole text first _ own, later]
        simp

variable [DecidableEq α]

def isRooted (path : List α) : Bool := path.head? == some marks.slash

def climb (rooted : Bool) : List (List α) → List (List α)
  | [] => if rooted then [] else [marks.up]
  | last :: rest => if last = marks.up then marks.up :: last :: rest else rest

def descend (rooted : Bool) (names : List (List α)) (element : List α) : List (List α) :=
  if element = [] ∨ element = marks.here then names
  else if element = marks.up then marks.climb rooted names
  else element :: names

def resolve (rooted : Bool) (elements : List (List α)) : List (List α) :=
  (elements.foldl (marks.descend rooted) []).reverse

def normal (path : List α) : List (List α) := marks.resolve (marks.isRooted path) (path.splitOn marks.slash)

def render (rooted : Bool) (names : List (List α)) : List α :=
  if rooted then marks.slash :: [marks.slash].intercalate names
  else if names = [] then marks.here
  else [marks.slash].intercalate names

def clean (path : List α) : List α := marks.render (marks.isRooted path) (marks.normal path)

def join (base path : List α) : List α :=
  if base = [] then if path = [] then [] else marks.clean path
  else marks.clean (base ++ marks.slash :: path)

def dropCommon : List (List α) → List (List α) → List (List α) × List (List α)
  | left :: lefts, right :: rights => if left = right then dropCommon lefts rights else (left :: lefts, right :: rights)
  | lefts, rights => (lefts, rights)

def relative (base target : List α) : Option (List α) :=
  let (above, below) := dropCommon (marks.normal base) (marks.normal target)
  if marks.isRooted target then some (marks.render false (List.replicate above.length marks.up ++ below)) else none

def parent (path : List α) : List α := marks.clean (path.rdropWhile (· ≠ marks.slash))

structure Within (base path : List α) : Prop where
  rooted : marks.isRooted path = true
  cleaned : marks.clean path = path
  names : marks.normal base <+: marks.normal path

section Descending

variable (rooted : Bool) (names : List (List α))

theorem descend_plain (name : List α) (plain : marks.Plain name) :
    marks.descend rooted names name = name :: names := by
  rw [descend, if_neg (not_or.mpr ⟨plain.filled, plain.notHere⟩), if_neg plain.notUp]

theorem descend_plains (before names : List (List α)) (plain : ∀ name ∈ names, marks.Plain name) :
    names.foldl (marks.descend rooted) before = names.reverse ++ before := by
  induction names generalizing before with
  | nil => rfl
  | cons name rest ih =>
      rw [List.foldl_cons, marks.descend_plain rooted before name (plain name List.mem_cons_self),
        ih (name :: before) fun other member => plain other (List.mem_cons_of_mem _ member)]
      simp

theorem descend_here : marks.descend rooted names marks.here = names := by
  rw [descend, if_pos (Or.inr rfl)]

theorem descend_empty : marks.descend rooted names [] = names := by
  rw [descend, if_pos (Or.inl rfl)]

theorem descend_up :
    marks.descend rooted names marks.up = marks.climb rooted names := by
  rw [descend, if_neg (not_or.mpr ⟨marks.up_filled, marks.up_notHere⟩), if_pos rfl]

theorem climb_steps (count : Nat) (grounded : rooted = true → count = 0) :
    marks.climb rooted (List.replicate count marks.up) = List.replicate (if rooted then 0 else count + 1) marks.up := by
  cases rooted with
  | true =>
      rw [grounded rfl]
      rfl
  | false =>
      cases count with
      | zero => rfl
      | succ count =>
          rw [List.replicate_succ, climb, if_pos rfl]
          rfl

theorem climb_plain (last : List α) (rest : List (List α)) (plain : last ≠ marks.up) :
    marks.climb rooted (last :: rest) = rest := if_neg plain

theorem stacked_descend (element : List α) (whole : marks.slash ∉ element)
    (stacked : marks.Stacked rooted names) : marks.Stacked rooted (marks.descend rooted names element) := by
  by_cases silent : element = [] ∨ element = marks.here
  · rw [descend, if_pos silent]
    exact stacked
  · obtain ⟨filled, notHere⟩ := not_or.mp silent
    by_cases step : element = marks.up
    · rw [step, descend_up]
      cases stacked with
      | name last rest plain stacked =>
          rw [marks.climb_plain rooted last rest plain.notUp]
          exact stacked
      | steps count grounded =>
          rw [marks.climb_steps rooted count grounded]
          apply Stacked.steps
          intro isRooted
          rw [if_pos isRooted]
    · have plain : marks.Plain element := ⟨filled, notHere, step, whole⟩
      rw [descend_plain marks rooted names element plain]
      exact .name element names plain stacked

theorem stacked_foldl (before elements : List (List α)) (whole : ∀ element ∈ elements, marks.slash ∉ element)
    (stacked : marks.Stacked rooted before) : marks.Stacked rooted (elements.foldl (marks.descend rooted) before) := by
  induction elements generalizing before with
  | nil => exact stacked
  | cons element rest ih =>
      apply ih
      · exact fun other member => whole other (List.mem_cons_of_mem _ member)
      · exact marks.stacked_descend rooted before element (whole element List.mem_cons_self) stacked

theorem stacked_resolve (elements : List (List α)) (whole : ∀ element ∈ elements, marks.slash ∉ element) :
    marks.Stacked rooted (marks.resolve rooted elements).reverse := by
  rw [resolve, List.reverse_reverse]
  exact marks.stacked_foldl rooted [] elements whole (.steps 0 fun _ => rfl)

theorem foldl_stacked (stacked : marks.Stacked rooted names) :
    names.reverse.foldl (marks.descend rooted) [] = names := by
  induction stacked with
  | name last rest plain _ ih =>
      rw [List.reverse_cons, List.foldl_append, ih, List.foldl_cons, List.foldl_nil]
      exact marks.descend_plain rooted rest last plain
  | steps count grounded =>
      rw [List.reverse_replicate]
      induction count with
      | zero => rfl
      | succ count ih =>
          have open_ : rooted = false := by
            apply Bool.eq_false_iff.mpr
            intro isRooted
            exact absurd (grounded isRooted) (Nat.succ_ne_zero count)
          subst open_
          rw [List.replicate_succ', List.foldl_append, ih nofun, List.foldl_cons, List.foldl_nil, descend_up,
            marks.climb_steps false count nofun, if_neg Bool.false_ne_true, List.replicate_succ']

theorem resolve_stacked (stacked : marks.Stacked rooted names.reverse) :
    marks.resolve rooted names = names := by
  have same := marks.foldl_stacked rooted names.reverse stacked
  rw [List.reverse_reverse] at same
  rw [resolve, same, List.reverse_reverse]

theorem foldl_resolve (before elements : List (List α))
    (whole : ∀ element ∈ elements, marks.slash ∉ element) :
    (marks.resolve false elements).foldl (marks.descend rooted) before = elements.foldl (marks.descend rooted) before := by
  have step (names : List (List α)) (element : List α) (whole : marks.slash ∉ element)
      (stacked : marks.Stacked false names) :
      (marks.descend false names element).reverse.foldl (marks.descend rooted) before =
        marks.descend rooted (names.reverse.foldl (marks.descend rooted) before) element := by
    by_cases silent : element = [] ∨ element = marks.here
    · rw [descend, if_pos silent, descend, if_pos silent]
    · obtain ⟨filled, notHere⟩ := not_or.mp silent
      by_cases up_ : element = marks.up
      · rw [up_]
        cases stacked with
        | name last rest plain stacked =>
            rw [descend_up, marks.climb_plain false last rest plain.notUp, List.reverse_cons, List.foldl_append,
              List.foldl_cons, List.foldl_nil, marks.descend_plain rooted _ last plain, descend_up,
              marks.climb_plain rooted last _ plain.notUp]
        | steps count grounded =>
            rw [descend_up, marks.climb_steps false count nofun, if_neg Bool.false_ne_true, List.reverse_replicate,
              List.reverse_replicate, List.replicate_succ', List.foldl_append, List.foldl_cons, List.foldl_nil]
      · have plain : marks.Plain element := ⟨filled, notHere, up_, whole⟩
        rw [marks.descend_plain false names element plain, List.reverse_cons, List.foldl_append, List.foldl_cons,
          List.foldl_nil]
  have all (names : List (List α)) (stacked : marks.Stacked false names) :
      (elements.foldl (marks.descend false) names).reverse.foldl (marks.descend rooted) before =
        elements.foldl (marks.descend rooted) (names.reverse.foldl (marks.descend rooted) before) := by
    induction elements generalizing names with
    | nil => rfl
    | cons element rest ih =>
        have own := whole element List.mem_cons_self
        rw [List.foldl_cons, List.foldl_cons, ← step names element own stacked]
        apply ih
        · exact fun other member => whole other (List.mem_cons_of_mem _ member)
        · exact marks.stacked_descend false names element own stacked
  exact all [] (.steps 0 fun _ => rfl)

end Descending

theorem splitOn_whole (path : List α) : ∀ element ∈ path.splitOn marks.slash, marks.slash ∉ element := by
  induction path with
  | nil => simp
  | cons letter rest ih =>
      rw [List.splitOn_cons_eq_if_modifyHead]
      by_cases split : (letter == marks.slash) = true
      · rw [if_pos split]
        intro element member
        rcases List.mem_cons.mp member with same | later
        · rw [same]
          exact List.not_mem_nil
        · exact ih element later
      · rw [if_neg split]
        cases parts : rest.splitOn marks.slash with
        | nil => exact absurd parts (List.splitOn_ne_nil _ _)
        | cons first others =>
            rw [parts] at ih
            intro element member
            rcases List.mem_cons.mp member with same | later
            · rw [same]
              intro inside
              rcases List.mem_cons.mp inside with isLetter | inner
              · exact split (by simp [isLetter])
              · exact ih first List.mem_cons_self inner
            · exact ih element (List.mem_cons_of_mem _ later)

theorem stacked_normal (path : List α) : marks.Stacked (marks.isRooted path) (marks.normal path).reverse :=
  marks.stacked_resolve _ _ (marks.splitOn_whole path)

theorem isRooted_render (rooted : Bool) (names : List (List α)) (stacked : marks.Stacked rooted names.reverse) :
    marks.isRooted (marks.render rooted names) = rooted := by
  cases rooted with
  | true => simp [render, isRooted]
  | false =>
      cases names with
      | nil => simp [render, isRooted, here, marks.apart.symm]
      | cons first rest =>
          obtain ⟨filled, whole⟩ := marks.stacked_whole false (first :: rest) stacked first List.mem_cons_self
          cases first with
          | nil => exact absurd rfl filled
          | cons letter letters =>
              have other : letter ≠ marks.slash := fun same => whole (by rw [same]; exact List.mem_cons_self)
              simp [render, isRooted, other]

theorem normal_render (rooted : Bool) (names : List (List α)) (stacked : marks.Stacked rooted names.reverse) :
    marks.normal (marks.render rooted names) = names := by
  have whole (name : List α) (member : name ∈ names) : marks.slash ∉ name :=
    (marks.stacked_whole rooted names stacked name member).2
  rw [normal, marks.isRooted_render rooted names stacked]
  by_cases empty : names = []
  · rw [empty]
    cases rooted with
    | true => simp [render, resolve, List.splitOn_cons_eq_if_modifyHead, descend_empty]
    | false =>
        rw [render, if_neg Bool.false_ne_true, if_pos rfl, List.splitOn_eq_singleton marks.here_whole, resolve]
        simp [descend_here]
  · have read := List.splitOn_intercalate marks.slash whole empty
    cases rooted with
    | true =>
        rw [render, if_pos rfl, List.splitOn_cons_eq_if_modifyHead, if_pos (beq_self_eq_true _), read, resolve,
          List.foldl_cons, descend_empty]
        exact marks.resolve_stacked true names stacked
    | false =>
        rw [render, if_neg Bool.false_ne_true, if_neg empty, read]
        exact marks.resolve_stacked false names stacked

theorem normal_slash : marks.normal [marks.slash] = [] := by
  simp [normal, resolve, List.splitOn_cons_eq_if_modifyHead, descend_empty]

theorem isRooted_clean (path : List α) : marks.isRooted (marks.clean path) = marks.isRooted path :=
  marks.isRooted_render _ _ (marks.stacked_normal path)

theorem normal_clean (path : List α) : marks.normal (marks.clean path) = marks.normal path :=
  marks.normal_render _ _ (marks.stacked_normal path)

theorem clean_clean (path : List α) : marks.clean (marks.clean path) = marks.clean path := by
  rw [clean, marks.isRooted_clean, marks.normal_clean, ← clean]

theorem isRooted_append (base path : List α) (filled : base ≠ []) : marks.isRooted (base ++ path) = marks.isRooted base := by
  cases base with
  | nil => exact absurd rfl filled
  | cons letter rest => rfl

theorem normal_join (base path : List α) (filled : base ≠ []) :
    marks.normal (base ++ marks.slash :: path) =
      ((path.splitOn marks.slash).foldl (marks.descend (marks.isRooted base))
        (marks.normal base).reverse).reverse := by
  rw [normal, marks.isRooted_append base _ filled, List.splitOn_append_cons_self, resolve, List.foldl_append, normal,
    resolve, List.reverse_reverse]

theorem foldl_clean (rooted : Bool) (before : List (List α)) (path : List α) (open_ : marks.isRooted path = false) :
    ((marks.clean path).splitOn marks.slash).foldl (marks.descend rooted) before =
      (path.splitOn marks.slash).foldl (marks.descend rooted) before := by
  have stacked := marks.stacked_normal path
  rw [← marks.foldl_resolve rooted before (path.splitOn marks.slash) (marks.splitOn_whole path)]
  rw [← open_, ← normal, clean]
  rw [open_] at stacked ⊢
  by_cases empty : marks.normal path = []
  · rw [empty, render, if_neg Bool.false_ne_true, if_pos rfl, List.splitOn_eq_singleton marks.here_whole]
    exact marks.descend_here rooted before
  · rw [render, if_neg Bool.false_ne_true, if_neg empty, List.splitOn_intercalate marks.slash ?_ empty]
    exact fun name member => (marks.stacked_whole false _ stacked name member).2

theorem clean_join (base path : List α) (filled : base ≠ []) (open_ : marks.isRooted path = false) :
    marks.clean (base ++ marks.slash :: marks.clean path) = marks.clean (base ++ marks.slash :: path) := by
  have names := marks.normal_join base (marks.clean path) filled
  rw [marks.foldl_clean _ _ path open_, ← marks.normal_join base path filled] at names
  unfold clean at names ⊢
  rw [names, marks.isRooted_append base _ filled, marks.isRooted_append base _ filled]

section Joining

variable (base path : List α)

theorem normal_below (filled : base ≠ []) (open_ : marks.isRooted path = false)
    (plain : ∀ name ∈ marks.normal path, marks.Plain name) :
    marks.normal (marks.join base path) = marks.normal base ++ marks.normal path := by
  rw [join, if_neg filled, normal_clean, marks.normal_join base path filled,
    ← marks.foldl_resolve _ _ _ (marks.splitOn_whole path)]
  have same : marks.resolve false (path.splitOn marks.slash) = marks.normal path := by rw [normal, open_]
  rw [same, marks.descend_plains _ _ _ plain, List.reverse_append, List.reverse_reverse, List.reverse_reverse]

theorem within_join (filled : base ≠ []) (rooted : marks.isRooted base = true) (open_ : marks.isRooted path = false)
    (plain : ∀ name ∈ marks.normal path, marks.Plain name) : marks.Within base (marks.join base path) := by
  have names := marks.normal_below base path filled open_ plain
  refine ⟨?_, ?_, ?_⟩
  · rw [join, if_neg filled, marks.isRooted_clean, marks.isRooted_append base _ filled, rooted]
  · rw [join, if_neg filled, marks.clean_clean]
  · rw [names]
    exact List.prefix_append _ _

theorem join_clean (filled : base ≠ []) (open_ : marks.isRooted path = false) :
    marks.join base (marks.clean path) = marks.join base path := by
  rw [join, join, if_neg filled, if_neg filled, marks.clean_join base path filled open_]

theorem dropCommon_append (names : List (List α)) (more : List (List α)) :
    dropCommon names (names ++ more) = ([], more) := by
  induction names with
  | nil =>
      cases more with
      | nil => rfl
      | cons name rest => rfl
  | cons name rest ih => rw [List.cons_append, dropCommon, if_pos rfl, ih]

theorem relative_below (target : List α) (more : List (List α)) (rooted : marks.isRooted target = true)
    (below : marks.normal target = marks.normal base ++ more) :
    marks.relative base target = some (marks.render false more) := by
  rw [relative, below, dropCommon_append]
  exact if_pos rooted

end Joining

theorem rooted_render (path : List α) (rooted : marks.isRooted path = true) (cleaned : marks.clean path = path) :
    path = marks.slash :: [marks.slash].intercalate (marks.normal path) := by
  have written := cleaned.symm
  rwa [clean, rooted, render, if_pos rfl] at written

theorem normal_trailing (path : List α) : marks.normal (path ++ [marks.slash]) = marks.normal path := by
  cases path with
  | nil =>
      rw [List.nil_append, normal_slash, normal, resolve, List.splitOn_nil]
      simp [descend_empty]
  | cons letter rest =>
      rw [marks.normal_join _ [] (List.cons_ne_nil _ _)]
      simp [descend_empty]

theorem rdropWhile_last (front last : List α) (whole : marks.slash ∉ last) :
    (front ++ marks.slash :: last).rdropWhile (· ≠ marks.slash) = front ++ [marks.slash] := by
  have passes : ∀ letter ∈ last.reverse, decide (letter ≠ marks.slash) = true := by
    intro letter member
    apply decide_eq_true
    intro same
    exact whole (same ▸ List.mem_reverse.mp member)
  rw [List.rdropWhile, List.reverse_append, List.reverse_cons, List.append_assoc, List.dropWhile_append_of_pos passes]
  simp

theorem within_parent (path : List α) (rooted : marks.isRooted path = true) (cleaned : marks.clean path = path) :
    marks.isRooted (marks.parent path) = true ∧ marks.normal (marks.parent path) = (marks.normal path).dropLast := by
  have written := marks.rooted_render path rooted cleaned
  have stacked := marks.stacked_normal path
  rw [rooted] at stacked
  rw [parent, marks.isRooted_clean, marks.normal_clean]
  rcases List.eq_nil_or_concat (marks.normal path) with empty | ⟨front, last, names⟩
  · rw [empty] at written ⊢
    have same : [marks.slash].rdropWhile (· ≠ marks.slash) = [marks.slash] := by simp [List.rdropWhile]
    rw [written, List.intercalate_nil, same, marks.normal_slash]
    exact ⟨by simp [isRooted], rfl⟩
  · rw [List.concat_eq_append] at names
    rw [names] at written stacked ⊢
    have plain := marks.stacked_rooted _ stacked last (by simp)
    have below : marks.Stacked true front.reverse := by
      rw [List.reverse_append, List.reverse_singleton, List.singleton_append] at stacked
      exact marks.stacked_tail true last _ stacked
    rw [List.dropLast_concat]
    by_cases top : front = []
    · rw [top, List.nil_append, List.intercalate_singleton] at written
      rw [written, ← List.nil_append (marks.slash :: last), marks.rdropWhile_last [] last plain.whole,
        marks.normal_trailing, top]
      simp [isRooted, normal, resolve, descend_empty]
    · rw [marks.intercalate_concat front last top, ← List.cons_append] at written
      rw [written, marks.rdropWhile_last _ last plain.whole, marks.normal_trailing]
      have read := marks.normal_render true front below
      rw [render, if_pos rfl] at read
      exact ⟨by simp [isRooted], read⟩

theorem clean_parent (path : List α) : marks.clean (marks.parent path) = marks.parent path := marks.clean_clean _

end PathMarks

end Yaaos.Base
