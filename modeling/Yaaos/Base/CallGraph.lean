import Mathlib.Data.List.Induction
import Mathlib.Data.List.Nodup
import Mathlib.Data.List.Perm.Subperm
import Mathlib.Logic.Relation

set_option autoImplicit false

namespace Yaaos.Base

-- Bodies are lists of items, and an item is a leaf or a call of another body.
-- A call graph with a cycle has no finite unfolding, so what unfolds is acyclic.
section Unfold

variable {σ α κ : Type} (view : σ → α ⊕ κ) (body : κ → Option (List σ))

inductive Unfolds : List σ → List α → Prop where
  | nil : Unfolds [] []
  | leaf (item : σ) (rest : List σ) (value : α) (values : List α) (seen : view item = .inl value)
      (tail : Unfolds rest values) : Unfolds (item :: rest) (value :: values)
  | call (item : σ) (rest : List σ) (key : κ) (items : List σ) (inner outer : List α) (seen : view item = .inr key)
      (found : body key = some items) (callee : Unfolds items inner) (tail : Unfolds rest outer) :
      Unfolds (item :: rest) (inner ++ outer)

inductive Reaches : List σ → κ → Prop where
  | direct (items : List σ) (item : σ) (key : κ) (member : item ∈ items) (seen : view item = .inr key) :
      Reaches items key
  | through (items : List σ) (item : σ) (via : κ) (inside : List σ) (key : κ) (member : item ∈ items)
      (seen : view item = .inr via) (found : body via = some inside) (later : Reaches inside key) :
      Reaches items key

def Calls (child parent : κ) : Prop :=
  ∃ inside, body parent = some inside ∧ ∃ item ∈ inside, view item = .inr child

theorem reaches_tail (item : σ) (rest : List σ) (key : κ) (reached : Reaches view body rest key) :
    Reaches view body (item :: rest) key := by
  cases reached with
  | direct _ other _ member seen => exact .direct _ other key (List.mem_cons_of_mem item member) seen
  | through _ other via inside _ member seen found later =>
      exact .through _ other via inside key (List.mem_cons_of_mem item member) seen found later

theorem reaches_head (item : σ) (rest : List σ) (via key : κ) (items : List σ) (seen : view item = .inr via)
    (found : body via = some items) (reached : Reaches view body items key) :
    Reaches view body (item :: rest) key :=
  .through _ item via items key List.mem_cons_self seen found reached

theorem unfolds_unique (items : List σ) (left right : List α) (unfolded : Unfolds view body items left)
    (again : Unfolds view body items right) : left = right := by
  induction unfolded generalizing right with
  | nil =>
      cases again
      rfl
  | leaf item rest value values seen tail ih =>
      cases again with
      | leaf _ _ other others seenAgain tailAgain =>
          have same : value = other := Sum.inl.inj (seen.symm.trans seenAgain)
          rw [same, ih others tailAgain]
      | call _ _ key inside inner outer seenAgain found callee tailAgain =>
          rw [seen] at seenAgain
          cases seenAgain
  | call item rest key inside inner outer seen found callee tail ihCallee ihTail =>
      cases again with
      | leaf _ _ other others seenAgain tailAgain =>
          rw [seen] at seenAgain
          cases seenAgain
      | call _ _ other insideAgain innerAgain outerAgain seenAgain foundAgain calleeAgain tailAgain =>
          have same : key = other := Sum.inr.inj (seen.symm.trans seenAgain)
          subst same
          have sameBody : inside = insideAgain := Option.some.inj (found.symm.trans foundAgain)
          subst sameBody
          rw [ihCallee innerAgain calleeAgain, ihTail outerAgain tailAgain]

theorem unfolds_agree (other : κ → Option (List σ)) (items : List σ) (values : List α)
    (unfolded : Unfolds view body items values)
    (agree : ∀ key, Reaches view body items key → other key = body key) : Unfolds view other items values := by
  induction unfolded with
  | nil => exact .nil
  | leaf item rest value values seen _ ih =>
      exact .leaf item rest value values seen
        (ih fun key reached => agree key (reaches_tail view body item rest key reached))
  | call item rest key inside inner outer seen found _ _ ihCallee ihTail =>
      have here : other key = some inside := by
        rw [agree key (.direct _ item key List.mem_cons_self seen), found]
      exact .call item rest key inside inner outer seen here
        (ihCallee fun later reached => agree later (reaches_head view body item rest key later inside seen found reached))
        (ihTail fun later reached => agree later (reaches_tail view body item rest later reached))

theorem unfolds_resolved (items : List σ) (values : List α) (unfolded : Unfolds view body items values) (key : κ)
    (reached : Reaches view body items key) : ∃ inside, body key = some inside := by
  induction unfolded with
  | nil =>
      cases reached with
      | direct _ item _ member _ => cases member
      | through _ item _ _ _ member _ _ _ => cases member
  | leaf item rest value values seen _ ih =>
      apply ih
      cases reached with
      | direct _ other _ member seenOther =>
          rcases List.mem_cons.mp member with rfl | later
          · rw [seen] at seenOther
            cases seenOther
          · exact .direct _ other key later seenOther
      | through _ other via inside _ member seenOther found after =>
          rcases List.mem_cons.mp member with rfl | later
          · rw [seen] at seenOther
            cases seenOther
          · exact .through _ other via inside key later seenOther found after
  | call item rest target inside inner outer seen found _ _ ihCallee ihTail =>
      cases reached with
      | direct _ other _ member seenOther =>
          rcases List.mem_cons.mp member with rfl | later
          · have same : target = key := Sum.inr.inj (seen.symm.trans seenOther)
            rw [← same]
            exact ⟨inside, found⟩
          · exact ihTail (.direct _ other key later seenOther)
      | through _ other via insideVia _ member seenOther foundVia after =>
          rcases List.mem_cons.mp member with rfl | later
          · have same : target = via := Sum.inr.inj (seen.symm.trans seenOther)
            rw [same, foundVia] at found
            rw [← Option.some.inj found] at ihCallee
            exact ihCallee after
          · exact ihTail (.through _ other via insideVia key later seenOther foundVia after)

theorem unfolds_accessible (items : List σ) (values : List α) (unfolded : Unfolds view body items values) :
    ∀ item ∈ items, ∀ key, view item = .inr key → Acc (Calls view body) key := by
  induction unfolded with
  | nil =>
      intro item member
      cases member
  | leaf item rest value values seen _ ih =>
      intro other member key seenOther
      rcases List.mem_cons.mp member with rfl | later
      · rw [seen] at seenOther
        cases seenOther
      · exact ih other later key seenOther
  | call item rest target inside inner outer seen found _ _ ihCallee ihTail =>
      intro other member key seenOther
      rcases List.mem_cons.mp member with rfl | later
      · have same : target = key := Sum.inr.inj (seen.symm.trans seenOther)
        subst same
        constructor
        rintro child ⟨insideAgain, foundAgain, inner, innerMember, calls⟩
        rw [foundAgain] at found
        rw [Option.some.inj found] at innerMember
        exact ihCallee inner innerMember child calls
      · exact ihTail other later key seenOther

theorem reaches_agree (other : κ → Option (List σ)) (items : List σ) (key : κ)
    (agree : ∀ via, via ≠ key → other via = body via) (reached : Reaches view body items key) :
    Reaches view other items key := by
  induction reached with
  | direct items item key member seen => exact .direct items item key member seen
  | through items item via inside key member seen found _ ih =>
      by_cases same : via = key
      · rw [same] at seen
        exact .direct items item key member seen
      · exact .through items item via inside key member seen ((agree via same).trans found) (ih agree)

theorem reaches_last (items : List σ) (key : κ) (reached : Reaches view body items key) :
    (∃ item ∈ items, view item = .inr key) ∨ ∃ via, via ≠ key ∧ Calls view body key via := by
  induction reached with
  | direct items item key member seen => exact .inl ⟨item, member, seen⟩
  | through items item via inside key member seen found _ ih =>
      by_cases same : via = key
      · rw [same] at seen
        exact .inl ⟨item, member, seen⟩
      · rcases ih with direct | later
        · exact .inr ⟨via, same, inside, found, direct⟩
        · exact .inr later

theorem reaches_calls (items : List σ) (key : κ) (reached : Reaches view body items key) :
    ∃ item ∈ items, ∃ first, view item = .inr first ∧ Relation.ReflTransGen (Calls view body) key first := by
  induction reached with
  | direct items item key member seen => exact ⟨item, member, key, seen, .refl⟩
  | through items item via inside key member seen found _ ih =>
      obtain ⟨inner, innerMember, first, calls, chain⟩ := ih
      exact ⟨item, member, via, seen, chain.tail ⟨inside, found, inner, innerMember, calls⟩⟩

theorem accessible_irreflexive {β : Type} (R : β → β → Prop) (value : β) (accessible : Acc R value) :
    ¬ R value value := by
  induction accessible with
  | intro value _ ih =>
      intro loop
      exact ih value loop loop

theorem unfolds_acyclic (items : List σ) (values : List α) (unfolded : Unfolds view body items values) (key : κ)
    (inside : List σ) (reached : Reaches view body items key) (found : body key = some inside) :
    ¬ Reaches view body inside key := by
  obtain ⟨item, member, first, seen, chain⟩ := reaches_calls view body items key reached
  have accessible : Acc (Relation.TransGen (Calls view body)) key := by
    have start := (unfolds_accessible view body items values unfolded item member first seen).transGen
    rcases Relation.reflTransGen_iff_eq_or_transGen.mp chain with rfl | below
    · exact start
    · exact start.inv below
  intro loop
  obtain ⟨inner, innerMember, next, calls, rest⟩ := reaches_calls view body inside key loop
  have step : Calls view body next key := ⟨inside, found, inner, innerMember, calls⟩
  exact accessible_irreflexive _ key accessible (Relation.TransGen.tail' rest step)

theorem unfolds_nonempty (filled : ∀ key inside, body key = some inside → inside ≠ []) (items : List σ)
    (values : List α) (unfolded : Unfolds view body items values) (some_ : items ≠ []) : values ≠ [] := by
  induction unfolded with
  | nil => exact absurd rfl some_
  | leaf item rest value values seen _ _ => exact List.cons_ne_nil value values
  | call item rest key inside inner outer seen found _ _ ihCallee _ =>
      intro none_
      exact ihCallee (filled key inside found) (List.append_eq_nil_iff.mp none_).1

end Unfold

section Closure

variable {κ : Type} [DecidableEq κ]

def visit (seen : List κ × List κ) (key : κ) : List κ × List κ :=
  if key ∈ seen.1 then seen else (seen.1 ++ [key], seen.2 ++ [key])

def closure (successors : κ → List κ) : Nat → List κ → List κ → List κ
  | 0, _, found => found
  | fuel + 1, frontier, found =>
      if frontier = [] then found
      else
        let next := (frontier.flatMap successors).foldl visit (found, [])
        closure successors fuel next.2 next.1

structure Visited (before : List κ) (keys : List κ) (after : List κ × List κ) : Prop where
  kept : ∀ key ∈ before, key ∈ after.1
  added : ∀ key ∈ keys, key ∈ after.1
  origin : ∀ key ∈ after.1, key ∈ before ∨ key ∈ after.2
  recent : ∀ key ∈ after.2, key ∈ keys
  nodup : before.Nodup → after.1.Nodup
  grows : after.1.length = before.length + after.2.length

theorem visit_visited (before : List κ) (keys : List κ) : Visited before keys (keys.foldl visit (before, [])) := by
  induction keys using List.reverseRecOn with
  | nil =>
      exact ⟨fun _ member => member, fun _ member => (by cases member), fun _ member => .inl member,
        fun _ member => (by cases member), fun unique => unique, rfl⟩
  | append_singleton keys key ih =>
      rw [List.foldl_append, List.foldl_cons, List.foldl_nil]
      generalize keys.foldl visit (before, []) = seen at ih
      by_cases present : key ∈ seen.1
      · rw [visit, if_pos present]
        refine ⟨ih.kept, ?_, ih.origin, ?_, ih.nodup, ih.grows⟩
        · intro other member
          rcases List.mem_append.mp member with earlier | last
          · exact ih.added other earlier
          · rw [List.mem_singleton.mp last]
            exact present
        · intro other member
          exact List.mem_append_left _ (ih.recent other member)
      · rw [visit, if_neg present]
        refine ⟨?_, ?_, ?_, ?_, ?_, ?_⟩
        · intro other member
          exact List.mem_append_left _ (ih.kept other member)
        · intro other member
          rcases List.mem_append.mp member with earlier | last
          · exact List.mem_append_left _ (ih.added other earlier)
          · exact List.mem_append_right _ last
        · intro other member
          rcases List.mem_append.mp member with earlier | last
          · exact (ih.origin other earlier).imp_right (List.mem_append_left _)
          · exact .inr (List.mem_append_right _ last)
        · intro other member
          rcases List.mem_append.mp member with earlier | last
          · exact List.mem_append_left _ (ih.recent other earlier)
          · exact List.mem_append_right _ last
        · intro unique
          rw [← List.concat_eq_append]
          exact (ih.nodup unique).concat present
        · simp only [List.length_append, List.length_singleton, ih.grows]
          omega

theorem closure_closed (successors : κ → List κ) (domain start : List κ)
    (inside : ∀ key next, next ∈ successors key → next ∈ domain) (fuel : Nat) (frontier found : List κ)
    (unique : found.Nodup) (bounded : found ⊆ domain)
    (enough : frontier = [] ∨ domain.length + 1 ≤ fuel + found.length)
    (pending : ∀ key, key ∈ start ∨ key ∈ found → key ∈ frontier ∨ ∀ next ∈ successors key, next ∈ found) :
    (∀ key, key ∈ start ∨ key ∈ closure successors fuel frontier found →
      ∀ next ∈ successors key, next ∈ closure successors fuel frontier found) ∧
      closure successors fuel frontier found ⊆ domain := by
  have settled (none_ : frontier = []) (key : κ) (member : key ∈ start ∨ key ∈ found) :
      ∀ next ∈ successors key, next ∈ found := by
    rcases pending key member with waiting | closed
    · rw [none_] at waiting
      cases waiting
    · exact closed
  induction fuel generalizing frontier found with
  | zero =>
      refine ⟨?_, bounded⟩
      apply settled
      rcases enough with none_ | full
      · exact none_
      · have most : found.length ≤ domain.length := (List.Nodup.subperm unique bounded).length_le
        omega
  | succ fuel ih =>
      rw [closure]
      by_cases none_ : frontier = []
      · rw [if_pos none_]
        exact ⟨settled none_, bounded⟩
      · rw [if_neg none_]
        have visited := visit_visited found (frontier.flatMap successors)
        generalize (frontier.flatMap successors).foldl visit (found, []) = next at visited
        have step (key : κ) (member : key ∈ start ∨ key ∈ next.1) :
            key ∈ next.2 ∨ ∀ later ∈ successors key, later ∈ next.1 := by
          have old (earlier : key ∈ start ∨ key ∈ found) : ∀ later ∈ successors key, later ∈ next.1 := by
            intro later edge
            rcases pending key earlier with waiting | closed
            · exact visited.added later (List.mem_flatMap.mpr ⟨key, waiting, edge⟩)
            · exact visited.kept later (closed later edge)
          rcases member with origin | present
          · exact .inr (old (.inl origin))
          · rcases visited.origin key present with earlier | recent
            · exact .inr (old (.inr earlier))
            · exact .inl recent
        refine ih next.2 next.1 (visited.nodup unique) ?_ ?_ step ?_
        · intro key member
          rcases visited.origin key member with earlier | recent
          · exact bounded earlier
          · obtain ⟨source, _, edge⟩ := List.mem_flatMap.mp (visited.recent key recent)
            exact inside source key edge
        · by_cases last : next.2 = []
          · exact .inl last
          · have grown := visited.grows
            have positive := List.length_pos_iff.mpr last
            rcases enough with empty | full
            · exact absurd empty none_
            · exact .inr (by omega)
        · intro last key member
          rcases step key member with waiting | closed
          · rw [last] at waiting
            cases waiting
          · exact closed

end Closure

end Yaaos.Base
