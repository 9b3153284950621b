import Mathlib.Data.List.Nodup

set_option autoImplicit false

namespace Yaaos.Base

-- A cache of bounded size in the order of use, most recent first.
structure Lru (κ ν : Type) where
  entries : List (κ × ν)

variable {κ ν : Type} [DecidableEq κ]

def recents : List κ → List κ
  | [] => []
  | key :: earlier => key :: (recents earlier).filter (· ≠ key)

namespace Lru

def empty : Lru κ ν := { entries := [] }

def keys (cache : Lru κ ν) : List κ := cache.entries.map Prod.fst

def promote (cache : Lru κ ν) (key : κ) (value : ν) : Lru κ ν :=
  { entries := (key, value) :: cache.entries.filter fun entry => entry.1 ≠ key }

def store (cap : Nat) (cache : Lru κ ν) (key : κ) (value : ν) : Lru κ ν :=
  if key ∈ cache.keys then cache.promote key value
  else { entries := (key, value) :: if cache.entries.length ≥ cap then cache.entries.dropLast else cache.entries }

def lookup (cache : Lru κ ν) (key : κ) : Option (ν × Lru κ ν) :=
  (cache.entries.find? fun entry => entry.1 = key).map fun entry => (entry.2, cache.promote key entry.2)

def Holds (cap : Nat) (cache : Lru κ ν) (used : List κ) : Prop := cache.keys = (recents used).take cap

end Lru

theorem recents_mem (used : List κ) (key : κ) : key ∈ recents used ↔ key ∈ used := by
  induction used with
  | nil => rfl
  | cons first earlier ih =>
      rw [recents, List.mem_cons, List.mem_cons, List.mem_filter, ih]
      by_cases same : key = first
      · simp [same]
      · simp [same]

theorem recents_nodup (used : List κ) : (recents used).Nodup := by
  induction used with
  | nil => exact List.nodup_nil
  | cons first earlier ih =>
      rw [recents, List.nodup_cons]
      exact ⟨fun member => by simpa using List.mem_filter.mp member, ih.filter _⟩

theorem recents_split (later earlier : List κ) (key : κ) (unused : key ∉ later) :
    ∃ rest, recents (later ++ key :: earlier) = recents later ++ key :: rest := by
  induction later with
  | nil => exact ⟨_, rfl⟩
  | cons first later ih =>
      rw [List.mem_cons, not_or] at unused
      obtain ⟨different, unused⟩ := unused
      obtain ⟨rest, split⟩ := ih unused
      refine ⟨rest.filter (· ≠ first), ?_⟩
      rw [List.cons_append, recents, split, List.filter_append, List.filter_cons_of_pos (by simpa using different), recents,
        List.cons_append]

theorem recents_among_iff (cap : Nat) (used : List κ) (key : κ) : key ∈ (recents used).take cap ↔
    key ∈ used ∧ (recents (used.takeWhile (· ≠ key))).length < cap := by
  by_cases member : key ∈ used
  · obtain ⟨later, earlier, split, unused⟩ := List.eq_append_cons_of_mem member
    have prior : used.takeWhile (· ≠ key) = later := by
      rw [split, List.takeWhile_append_of_pos, List.takeWhile_cons_of_neg (by simp), List.append_nil]
      intro other otherMember
      simpa using fun same : other = key => unused (same ▸ otherMember)
    obtain ⟨rest, shape⟩ := recents_split later earlier key unused
    rw [prior, split, shape]
    constructor
    · intro kept
      refine ⟨split ▸ member, ?_⟩
      by_contra many
      rw [List.take_append_of_le_length (Nat.not_lt.mp many)] at kept
      exact unused ((recents_mem later key).mp (List.mem_of_mem_take kept))
    · intro few
      rw [List.take_append, List.take_of_length_le (Nat.le_of_lt few.2)]
      refine List.mem_append_right _ ?_
      obtain ⟨room, isRoom⟩ := Nat.exists_eq_succ_of_ne_zero (Nat.sub_ne_zero_of_lt few.2)
      rw [isRoom, List.take_succ_cons]
      exact List.mem_cons_self
  · exact ⟨fun kept => absurd ((recents_mem used key).mp (List.mem_of_mem_take kept)) member,
      fun recent => absurd recent.1 member⟩

theorem take_touched (keys : List κ) (distinct : keys.Nodup) (key : κ) (room : Nat) (kept : key ∈ keys.take (room + 1)) :
    (keys.take (room + 1)).filter (· ≠ key) = (keys.filter (· ≠ key)).take room := by
  induction keys generalizing room with
  | nil => cases kept
  | cons first rest ih =>
      rw [List.nodup_cons] at distinct
      rw [List.take_succ_cons] at kept ⊢
      by_cases same : first = key
      · have others (keys : List κ) (sub : ∀ other ∈ keys, other ∈ rest) : keys.filter (· ≠ key) = keys := by
          refine List.filter_eq_self.mpr fun other member => ?_
          simpa using fun isKey : other = key => distinct.1 (by rw [same, ← isKey]; exact sub other member)
        rw [List.filter_cons_of_neg (by simpa using same), List.filter_cons_of_neg (by simpa using same),
          others rest fun _ => id, others (rest.take room) fun other => List.mem_of_mem_take]
      · have later : key ∈ rest.take room := (List.mem_cons.mp kept).resolve_left (Ne.symm same)
        cases room with
        | zero => cases later
        | succ room =>
            rw [List.filter_cons_of_pos (by simpa using same), List.filter_cons_of_pos (by simpa using same),
              List.take_succ_cons, ih distinct.2 room later]

theorem take_untouched (keys : List κ) (key : κ) (room : Nat) (absent : key ∉ keys.take room) :
    (keys.filter (· ≠ key)).take room = keys.take room := by
  induction keys generalizing room with
  | nil => rfl
  | cons first rest ih =>
      cases room with
      | zero => rfl
      | succ room =>
          rw [List.take_succ_cons, List.mem_cons, not_or] at absent
          rw [List.filter_cons_of_pos (by simpa using Ne.symm absent.1), List.take_succ_cons, List.take_succ_cons,
            ih room absent.2]

namespace Lru

variable {cap : Nat} (cache : Lru κ ν) (used : List κ) (key : κ) (value : ν)

theorem empty_holds (cap : Nat) : (empty : Lru κ ν).Holds cap [] := List.take_nil.symm

theorem promote_keys : (cache.promote key value).keys = key :: cache.keys.filter (· ≠ key) := by
  rw [keys, promote, List.map_cons, keys, List.filter_map]
  rfl

theorem promote_holds (holds : cache.Holds cap used) (present : key ∈ cache.keys) :
    (cache.promote key value).Holds cap (key :: used) := by
  rw [Holds] at holds
  rw [holds] at present
  rw [Holds, promote_keys, holds, recents]
  cases cap with
  | zero => cases present
  | succ room => rw [List.take_succ_cons, take_touched (recents used) (recents_nodup used) key room present]

theorem store_holds (holds : cache.Holds cap used) (positive : 0 < cap) :
    (cache.store cap key value).Holds cap (key :: used) := by
  rw [store]
  by_cases present : key ∈ cache.keys
  · rw [if_pos present]
    exact promote_holds cache used key value holds present
  · rw [if_neg present]
    obtain ⟨room, isCap⟩ := Nat.exists_eq_succ_of_ne_zero (Nat.ne_of_gt positive)
    subst isCap
    have holds : cache.keys = (recents used).take (room + 1) := holds
    rw [holds] at present
    have size : cache.entries.length = ((recents used).take (room + 1)).length := by
      rw [← holds, keys, List.length_map]
    have absent : key ∉ (recents used).take room := fun member =>
      present (List.take_subset_take_left (recents used) (Nat.le_succ room) member)
    have kept : (if cache.entries.length ≥ room + 1 then cache.entries.dropLast else cache.entries).map Prod.fst =
        (recents used).take room := by
      by_cases full : cache.entries.length ≥ room + 1
      · rw [if_pos full, List.map_dropLast]
        have enough : room + 1 ≤ (recents used).length := by
          rw [size, List.length_take] at full
          exact Nat.le_trans full (Nat.min_le_right _ _)
        rw [show cache.entries.map Prod.fst = _ from holds, List.dropLast_eq_take, List.take_take, List.length_take,
          Nat.min_eq_left enough, Nat.add_sub_cancel, Nat.min_eq_left (Nat.le_succ room)]
      · rw [if_neg full]
        have short : (recents used).length ≤ room := by
          rw [size, List.length_take] at full
          omega
        rw [show cache.entries.map Prod.fst = _ from holds, List.take_of_length_le (Nat.le_succ_of_le short),
          List.take_of_length_le short]
    rw [Holds, keys, List.map_cons, kept, recents, List.take_succ_cons, take_untouched (recents used) key room absent]

theorem lookup_some (holds : cache.Holds cap used) (next : Lru κ ν) (hit : cache.lookup key = some (value, next)) :
    next.Holds cap (key :: used) ∧ key ∈ used := by
  obtain ⟨entry, found, same⟩ := Option.map_eq_some_iff.mp hit
  have member := List.mem_of_find?_eq_some found
  have named : entry.1 = key := by simpa using List.find?_some found
  have present : key ∈ cache.keys := by
    rw [← named]
    exact List.mem_map_of_mem member
  cases same
  refine ⟨promote_holds cache used key entry.2 holds present, ?_⟩
  rw [show cache.keys = _ from holds] at present
  exact (recents_mem used key).mp (List.mem_of_mem_take present)

theorem lookup_kept (next : Lru κ ν) (hit : cache.lookup key = some (value, next)) :
    (key, value) ∈ cache.entries ∧ ∀ entry ∈ next.entries, entry ∈ cache.entries := by
  obtain ⟨entry, found, same⟩ := Option.map_eq_some_iff.mp hit
  have member := List.mem_of_find?_eq_some found
  have named : entry.1 = key := by simpa using List.find?_some found
  cases same
  refine ⟨named ▸ member, fun other kept => ?_⟩
  cases List.mem_cons.mp kept with
  | inl first =>
      rw [first, ← named]
      exact member
  | inr old => exact List.mem_of_mem_filter old

theorem store_kept (entry : κ × ν) (kept : entry ∈ (cache.store cap key value).entries) :
    entry = (key, value) ∨ (entry ∈ cache.entries ∧ entry.1 ≠ key) := by
  rw [store] at kept
  split at kept
  · cases List.mem_cons.mp kept with
    | inl first => exact .inl first
    | inr old => exact .inr ⟨List.mem_of_mem_filter old, by simpa using (List.mem_filter.mp old).2⟩
  · rename_i absent
    cases List.mem_cons.mp kept with
    | inl first => exact .inl first
    | inr old =>
        have held : entry ∈ cache.entries := by
          split at old
          · exact List.dropLast_subset _ old
          · exact old
        exact .inr ⟨held, fun same => absent (same ▸ List.mem_map_of_mem held)⟩

theorem lookup_recent (holds : cache.Holds cap used) (member : key ∈ used)
    (few : (recents (used.takeWhile (· ≠ key))).length < cap) : ∃ value next, cache.lookup key = some (value, next) := by
  have present := (recents_among_iff cap used key).mpr ⟨member, few⟩
  rw [← show cache.keys = _ from holds] at present
  obtain ⟨entry, entryMember, named⟩ := List.mem_map.mp present
  cases found : cache.entries.find? fun entry => entry.1 = key with
  | none => exact absurd (List.find?_eq_none.mp found entry entryMember) (by simpa using named)
  | some hit => exact ⟨hit.2, cache.promote key hit.2, by rw [lookup, found]; rfl⟩

end Lru

end Yaaos.Base
