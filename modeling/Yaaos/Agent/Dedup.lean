import Mathlib.Data.Finset.Card
import Mathlib.Data.List.Find
import Mathlib.Logic.Function.Basic
import Yaaos.Agent.Supervisor

set_option autoImplicit false

namespace Yaaos.Agent

open Yaaos.Base

variable {Event : Type}

structure DedupElement (Event : Type) where
  address : Nat
  commandId : String
  event : Event

structure DedupCache (Event : Type) where
  cap : Nat
  ll : List (DedupElement Event)
  index : String → Option Nat
  created : Nat

def newDedupCache (cap : Int) : DedupCache Event where
  cap := if cap ≤ 0 then dedupCacheSize else cap.toNat
  ll := []
  index := fun _ => none
  created := 0

def elementAt (ll : List (DedupElement Event)) (address : Nat) : Option (DedupElement Event) :=
  ll.find? fun element => element.address = address

def moveToFront (ll : List (DedupElement Event)) (address : Nat) : List (DedupElement Event) :=
  match elementAt ll address with
  | some element => element :: ll.filter fun element => element.address ≠ address
  | none => ll

def setEvent (ll : List (DedupElement Event)) (address : Nat) (event : Event) : List (DedupElement Event) :=
  ll.map fun element => if element.address = address then { element with event := event } else element

namespace DedupCache

def evict (cache : DedupCache Event) : DedupCache Event :=
  match cache.ll.getLast? with
  | some lru => { cache with ll := cache.ll.dropLast, index := Function.update cache.index lru.commandId none }
  | none => cache

def pushFront (cache : DedupCache Event) (commandId : String) (event : Event) : DedupCache Event :=
  { cache with
    ll := { address := cache.created, commandId := commandId, event := event } :: cache.ll
    index := Function.update cache.index commandId (some cache.created)
    created := cache.created + 1 }

def store (cache : DedupCache Event) (commandId : String) (event : Event) : DedupCache Event :=
  match cache.index commandId with
  | some address => { cache with ll := moveToFront (setEvent cache.ll address event) address }
  | none => (if cache.ll.length ≥ cache.cap then cache.evict else cache).pushFront commandId event

def lookup (cache : DedupCache Event) (commandId : String) : Option Event × DedupCache Event :=
  match cache.index commandId with
  | none => (none, cache)
  | some address =>
      ((elementAt cache.ll address).map DedupElement.event, { cache with ll := moveToFront cache.ll address })

def ids (cache : DedupCache Event) : List String := cache.ll.map DedupElement.commandId

structure Sound (cache : DedupCache Event) : Prop where
  indexed : ∀ commandId address, cache.index commandId = some address ↔
    ∃ element ∈ cache.ll, element.address = address ∧ element.commandId = commandId
  addressed : (cache.ll.map DedupElement.address).Nodup
  allocated : ∀ element ∈ cache.ll, element.address < cache.created

def recency (cache : DedupCache Event) : Lru String Event :=
  { entries := cache.ll.map fun element => (element.commandId, element.event) }

end DedupCache

inductive DedupOp (Event : Type) where
  | store (commandId : String) (event : Event)
  | lookup (commandId : String)

structure DedupRun (Event : Type) where
  cache : DedupCache Event
  used : List String
  stored : String → Option Event

def DedupRun.start (cap : Int) : DedupRun Event :=
  { cache := newDedupCache cap, used := [], stored := fun _ => none }

def DedupRun.op (run : DedupRun Event) : DedupOp Event → DedupRun Event
  | .store commandId event =>
      { cache := run.cache.store commandId event
        used := commandId :: run.used
        stored := Function.update run.stored commandId (some event) }
  | .lookup commandId =>
      { run with
        cache := (run.cache.lookup commandId).2
        used := if (run.cache.lookup commandId).1.isSome then commandId :: run.used else run.used }

def dedupRun (cap : Int) (ops : List (DedupOp Event)) : DedupRun Event := ops.foldl DedupRun.op (DedupRun.start cap)

def DedupRun.since (run : DedupRun Event) (commandId : String) : Finset String :=
  (run.used.takeWhile (· ≠ commandId)).toFinset

section Elements

variable (ll : List (DedupElement Event)) (address : Nat)

theorem elementAt_some (element : DedupElement Event) (found : elementAt ll address = some element) :
    element ∈ ll ∧ element.address = address :=
  ⟨List.mem_of_find?_eq_some found, by simpa using List.find?_some found⟩

theorem elementAt_of_mem (unique : (ll.map DedupElement.address).Nodup) (element : DedupElement Event) (member : element ∈ ll) :
    elementAt ll element.address = some element := by
  cases found : elementAt ll element.address with
  | none =>
      have missed := List.find?_eq_none.mp found element member
      simp at missed
  | some other =>
      obtain ⟨held, same⟩ := elementAt_some ll element.address other found
      rw [List.inj_on_of_nodup_map unique held member same]

theorem moveToFront_perm (unique : (ll.map DedupElement.address).Nodup) : (moveToFront ll address).Perm ll := by
  rw [moveToFront]
  cases found : elementAt ll address with
  | none => exact .refl ll
  | some element =>
      obtain ⟨member, there⟩ := elementAt_some ll address element found
      have nodup := unique.of_map
      refine (List.perm_ext_iff_of_nodup ?_ nodup).mpr fun other => ?_
      · rw [List.nodup_cons]
        refine ⟨fun again => ?_, nodup.filter _⟩
        simpa [there] using (List.mem_filter.mp again).2
      · rw [List.mem_cons, List.mem_filter]
        constructor
        · rintro (rfl | ⟨held, _⟩)
          · exact member
          · exact held
        · intro held
          by_cases same : other.address = address
          · exact .inl (List.inj_on_of_nodup_map unique held member (same.trans there.symm))
          · exact .inr ⟨held, by simpa using same⟩

theorem setEvent_filter (event : Event) : (setEvent ll address event).filter (fun element => element.address ≠ address) =
    ll.filter fun element => element.address ≠ address := by
  induction ll with
  | nil => rfl
  | cons element rest ih =>
      rw [setEvent, List.map_cons]
      by_cases same : element.address = address
      · rw [if_pos same, List.filter_cons_of_neg (by simpa using same), List.filter_cons_of_neg (by simpa using same)]
        exact ih
      · rw [if_neg same, List.filter_cons_of_pos (by simpa using same), List.filter_cons_of_pos (by simpa using same)]
        exact congrArg (element :: ·) ih

theorem elementAt_setEvent (event : Event) : elementAt (setEvent ll address event) address =
    (elementAt ll address).map fun element => { element with event := event } := by
  induction ll with
  | nil => rfl
  | cons element rest ih =>
      rw [elementAt, setEvent, List.map_cons, elementAt]
      by_cases same : element.address = address
      · rw [if_pos same, List.find?_cons_of_pos (by simpa using same), List.find?_cons_of_pos (by simpa using same)]
        rfl
      · rw [if_neg same, List.find?_cons_of_neg (by simpa using same), List.find?_cons_of_neg (by simpa using same)]
        exact ih

end Elements

namespace DedupCache

section Soundness

variable (cache : DedupCache Event) (sound : cache.Sound) (commandId : String) (event : Event) (address : Nat)
include sound

theorem ids_nodup : cache.ids.Nodup := by
  refine List.Nodup.map_on (fun one held other present same => ?_) sound.addressed.of_map
  have first := (sound.indexed one.commandId one.address).mpr ⟨one, held, rfl, rfl⟩
  have second := (sound.indexed one.commandId other.address).mpr ⟨other, present, rfl, same.symm⟩
  exact List.inj_on_of_nodup_map sound.addressed held present (Option.some.inj (first.symm.trans second))

theorem indexed_iff : (cache.index commandId).isSome = true ↔ commandId ∈ cache.ids := by
  rw [Option.isSome_iff_exists, ids, List.mem_map]
  constructor
  · rintro ⟨address, there⟩
    obtain ⟨element, held, _, named⟩ := (sound.indexed commandId address).mp there
    exact ⟨element, held, named⟩
  · rintro ⟨element, held, named⟩
    exact ⟨element.address, (sound.indexed commandId element.address).mpr ⟨element, held, rfl, named⟩⟩

theorem hit_iff (hit : cache.index commandId = some address) (element : DedupElement Event) (member : element ∈ cache.ll) :
    element.address = address ↔ element.commandId = commandId := by
  constructor
  · intro same
    obtain ⟨other, held, there, named⟩ := (sound.indexed commandId address).mp hit
    rw [List.inj_on_of_nodup_map sound.addressed member held (same.trans there.symm)]
    exact named
  · intro named
    have first := (sound.indexed commandId element.address).mpr ⟨element, member, rfl, named⟩
    exact Option.some.inj (first.symm.trans hit)

theorem perm_sound (ll : List (DedupElement Event)) (perm : ll.Perm cache.ll) : Sound { cache with ll := ll } where
  indexed := fun commandId address => by
    rw [sound.indexed commandId address]
    exact exists_congr fun element => and_congr_left fun _ => perm.mem_iff.symm
  addressed := (perm.map _).nodup_iff.mpr sound.addressed
  allocated := fun element member => sound.allocated element (perm.mem_iff.mp member)

theorem setEvent_sound : Sound { cache with ll := setEvent cache.ll address event } where
  indexed := fun commandId other => by
    rw [sound.indexed commandId other]
    constructor
    · rintro ⟨element, held, there, named⟩
      refine ⟨_, List.mem_map_of_mem held, ?_, ?_⟩ <;> split <;> assumption
    · rintro ⟨element, held, there, named⟩
      obtain ⟨old, member, rfl⟩ := List.mem_map.mp held
      refine ⟨old, member, ?_, ?_⟩
      · split at there <;> exact there
      · split at named <;> exact named
  addressed := by
    have same : (setEvent cache.ll address event).map DedupElement.address = cache.ll.map DedupElement.address := by
      rw [setEvent, List.map_map]
      refine List.map_congr_left fun element _ => ?_
      rw [Function.comp]
      split <;> rfl
    rw [same]
    exact sound.addressed
  allocated := fun element member => by
    obtain ⟨old, held, rfl⟩ := List.mem_map.mp member
    split <;> exact sound.allocated old held

theorem evict_sound : cache.evict.Sound := by
  rw [evict]
  cases last : cache.ll.getLast? with
  | none => exact sound
  | some lru =>
      have split : cache.ll = cache.ll.dropLast ++ [lru] := (List.dropLast_append_getLast? lru last).symm
      have unique := ids_nodup cache sound
      rw [ids, split, List.map_append, List.map_singleton, List.nodup_append] at unique
      have addresses := sound.addressed
      refine ⟨fun id address => ?_, addresses.sublist ((List.dropLast_sublist _).map _), fun element member =>
        sound.allocated element (List.dropLast_subset _ member)⟩
      dsimp only
      by_cases gone : id = lru.commandId
      · subst gone
        rw [Function.update_self]
        refine ⟨fun none_ => absurd none_ (by simp), ?_⟩
        rintro ⟨element, held, _, named⟩
        exact absurd named (unique.2.2 element.commandId (List.mem_map_of_mem held) lru.commandId List.mem_cons_self)
      · rw [Function.update_of_ne gone, sound.indexed id address]
        constructor
        · rintro ⟨element, held, there, named⟩
          rw [split, List.mem_append, List.mem_singleton] at held
          cases held with
          | inl kept => exact ⟨element, kept, there, named⟩
          | inr isLru => exact absurd (isLru ▸ named) (Ne.symm gone)
        · rintro ⟨element, held, there, named⟩
          exact ⟨element, List.dropLast_subset _ held, there, named⟩

theorem pushFront_sound (absent : cache.index commandId = none) : (cache.pushFront commandId event).Sound where
  indexed := fun id address => by
    rw [pushFront]
    dsimp only
    by_cases same : id = commandId
    · subst same
      rw [Function.update_self, Option.some.injEq]
      constructor
      · intro there
        exact ⟨_, List.mem_cons_self, there, rfl⟩
      · rintro ⟨element, held, there, named⟩
        cases List.mem_cons.mp held with
        | inl new =>
            rw [new] at there
            exact there
        | inr old =>
            have known := (sound.indexed id element.address).mpr ⟨element, old, rfl, named⟩
            rw [absent] at known
            cases known
    · rw [Function.update_of_ne same, sound.indexed id address]
      constructor
      · rintro ⟨element, held, there, named⟩
        exact ⟨element, List.mem_cons_of_mem _ held, there, named⟩
      · rintro ⟨element, held, there, named⟩
        cases List.mem_cons.mp held with
        | inl new =>
            rw [new] at named
            exact absurd named.symm same
        | inr old => exact ⟨element, old, there, named⟩
  addressed := by
    rw [pushFront, List.map_cons, List.nodup_cons]
    refine ⟨fun again => ?_, sound.addressed⟩
    obtain ⟨element, held, there⟩ := List.mem_map.mp again
    exact absurd there (Nat.ne_of_lt (sound.allocated element held))
  allocated := fun element member => by
    cases List.mem_cons.mp member with
    | inl new =>
        rw [new]
        exact Nat.lt_succ_self _
    | inr old => exact Nat.lt_succ_of_lt (sound.allocated element old)

end Soundness

section Recency

variable (cache : DedupCache Event) (sound : cache.Sound) (commandId : String) (event : Event) (address : Nat)

theorem recency_keys : cache.recency.keys = cache.ids := by
  rw [Lru.keys, recency, List.map_map]
  rfl

include sound

theorem hit_rest (hit : cache.index commandId = some address) :
    (cache.ll.filter fun element => element.address ≠ address).map (fun element => (element.commandId, element.event)) =
      cache.recency.entries.filter fun entry => entry.1 ≠ commandId := by
  rw [recency, List.filter_map]
  refine congrArg _ (List.filter_congr fun element member => ?_)
  have same := hit_iff cache sound commandId address hit element member
  simp only [Function.comp, ne_eq, decide_not, same]

theorem hit_element (hit : cache.index commandId = some address) : ∃ element,
    elementAt cache.ll address = some element ∧ element ∈ cache.ll ∧ element.commandId = commandId := by
  obtain ⟨element, held, there, named⟩ := (sound.indexed commandId address).mp hit
  exact ⟨element, there ▸ elementAt_of_mem cache.ll sound.addressed element held, held, named⟩

theorem store_sound : (cache.store commandId event).Sound := by
  rw [store]
  cases hit : cache.index commandId with
  | some address =>
      have written := setEvent_sound cache sound event address
      exact perm_sound _ written _ (moveToFront_perm _ address written.addressed)
  | none =>
      dsimp only
      split
      · refine pushFront_sound _ (evict_sound cache sound) commandId event ?_
        rw [evict]
        split
        · dsimp only
          rw [Function.update_apply]
          split
          · rfl
          · exact hit
        · exact hit
      · exact pushFront_sound cache sound commandId event hit

theorem store_recency : (cache.store commandId event).recency = cache.recency.store cache.cap commandId event := by
  have known := indexed_iff cache sound commandId
  rw [store, Lru.store, recency_keys]
  cases hit : cache.index commandId with
  | some address =>
      obtain ⟨element, found, _, named⟩ := hit_element cache sound commandId address hit
      rw [hit] at known
      rw [if_pos (known.mp rfl), Lru.promote, ← hit_rest cache sound commandId address hit]
      dsimp only [recency]
      rw [moveToFront, elementAt_setEvent, found, setEvent_filter, Option.map_some, List.map_cons, named]
  | none =>
      rw [hit] at known
      rw [if_neg fun member => absurd (known.mpr member) (by decide)]
      have size : cache.recency.entries.length = cache.ll.length := List.length_map _
      by_cases full : cache.ll.length ≥ cache.cap
      · rw [if_pos (size ▸ full : cache.recency.entries.length ≥ cache.cap)]
        dsimp only
        rw [if_pos full, evict]
        dsimp only [recency, pushFront]
        rw [← List.map_dropLast, List.map_cons]
        cases last : cache.ll.getLast? with
        | none =>
            rw [List.getLast?_eq_none_iff.mp last]
            rfl
        | some lru => rfl
      · rw [if_neg (size ▸ full : ¬ cache.recency.entries.length ≥ cache.cap)]
        dsimp only
        rw [if_neg full]
        rfl

theorem lookup_sound : (cache.lookup commandId).2.Sound := by
  rw [lookup]
  cases cache.index commandId with
  | none => exact sound
  | some address => exact perm_sound cache sound _ (moveToFront_perm cache.ll address sound.addressed)

theorem lookup_missed (missed : (cache.lookup commandId).1 = none) : (cache.lookup commandId).2 = cache := by
  rw [lookup] at missed ⊢
  cases hit : cache.index commandId with
  | none => rfl
  | some address =>
      obtain ⟨element, found, _, _⟩ := hit_element cache sound commandId address hit
      rw [hit] at missed
      dsimp only at missed
      rw [found] at missed
      cases missed

theorem lookup_recency : cache.recency.lookup commandId =
    (cache.lookup commandId).1.map fun event => (event, (cache.lookup commandId).2.recency) := by
  have known := indexed_iff cache sound commandId
  rw [Lru.lookup, lookup]
  cases hit : cache.index commandId with
  | none =>
      rw [hit] at known
      have missed : cache.recency.entries.find? (fun entry => entry.1 = commandId) = none := by
        refine List.find?_eq_none.mpr fun entry member => ?_
        obtain ⟨element, held, rfl⟩ := List.mem_map.mp member
        simpa using fun named : element.commandId = commandId =>
          absurd (known.mpr (named ▸ List.mem_map_of_mem held)) (by decide)
      rw [missed]
      rfl
  | some address =>
      obtain ⟨element, found, member, named⟩ := hit_element cache sound commandId address hit
      have entry : cache.recency.entries.find? (fun entry => entry.1 = commandId) = some (commandId, element.event) := by
        have same : cache.ll.find? (fun other => other.address = address) =
            cache.ll.find? fun other => other.commandId = commandId :=
          List.find?_congr fun other held => decide_eq_decide.mpr (hit_iff cache sound commandId address hit other held)
        rw [elementAt, same] at found
        rw [recency, List.find?_map, Function.comp_def, found, Option.map_some, named]
      rw [entry]
      dsimp only
      rw [found, Option.map_some, Option.map_some, Option.map_some, Lru.promote,
        ← hit_rest cache sound commandId address hit]
      dsimp only [recency]
      rw [moveToFront, found, List.map_cons, named]

end Recency

end DedupCache

theorem recents_length (used : List String) : (recents used).length = used.toFinset.card := by
  rw [← List.toFinset_card_of_nodup (recents_nodup used)]
  refine congrArg Finset.card (Finset.ext fun key => ?_)
  rw [List.mem_toFinset, List.mem_toFinset, recents_mem]

structure Remembers (cap : Nat) (run : DedupRun Event) : Prop where
  sized : run.cache.cap = cap
  sound : run.cache.Sound
  holds : run.cache.recency.Holds cap run.used
  newest : ∀ entry ∈ run.cache.recency.entries, run.stored entry.1 = some entry.2
  known : ∀ commandId, (run.stored commandId).isSome = true → commandId ∈ run.used

section Steps

variable (cap : Nat) (run : DedupRun Event) (remembers : Remembers cap run) (commandId : String) (event : Event)
include remembers

theorem store_remembers (positive : 0 < cap) : Remembers cap (run.op (.store commandId event)) := by
  have simulates := DedupCache.store_recency run.cache remembers.sound commandId event
  rw [remembers.sized] at simulates
  refine ⟨?_, DedupCache.store_sound run.cache remembers.sound commandId event, ?_, ?_, ?_⟩
  · rw [DedupRun.op, DedupCache.store]
    dsimp only
    split
    · exact remembers.sized
    · rw [DedupCache.pushFront, DedupCache.evict]
      split
      · split <;> exact remembers.sized
      · exact remembers.sized
  · rw [DedupRun.op, simulates]
    exact Lru.store_holds _ _ commandId event remembers.holds positive
  · intro entry kept
    rw [DedupRun.op, simulates] at kept
    rw [DedupRun.op]
    dsimp only
    cases Lru.store_kept _ commandId event entry kept with
    | inl new => rw [new, Function.update_self]
    | inr old =>
        rw [Function.update_of_ne old.2]
        exact remembers.newest entry old.1
  · intro other some_
    rw [DedupRun.op] at some_ ⊢
    dsimp only at some_ ⊢
    by_cases same : other = commandId
    · rw [same]
      exact List.mem_cons_self
    · rw [Function.update_of_ne same] at some_
      exact List.mem_cons_of_mem _ (remembers.known other some_)

theorem lookup_remembers : Remembers cap (run.op (.lookup commandId)) := by
  have simulates := DedupCache.lookup_recency run.cache remembers.sound commandId
  have sound := DedupCache.lookup_sound run.cache remembers.sound commandId
  have sized : (run.cache.lookup commandId).2.cap = cap := by
    rw [DedupCache.lookup]
    split <;> exact remembers.sized
  rw [DedupRun.op]
  cases hit : (run.cache.lookup commandId).1 with
  | none =>
      rw [DedupCache.lookup_missed run.cache remembers.sound commandId hit]
      exact remembers
  | some event =>
      rw [hit, Option.map_some] at simulates
      obtain ⟨member, kept⟩ := Lru.lookup_kept _ commandId event _ simulates
      exact {
        sized := sized
        sound := sound
        holds := (Lru.lookup_some _ run.used commandId event remembers.holds _ simulates).1
        newest := fun entry still => remembers.newest entry (kept entry still)
        known := fun other some_ => List.mem_cons_of_mem _ (remembers.known other some_) }

theorem lookup_event : (run.cache.lookup commandId).1 =
    if (run.since commandId).card < cap then run.stored commandId else none := by
  have simulates := DedupCache.lookup_recency run.cache remembers.sound commandId
  have among := recents_among_iff cap run.used commandId
  rw [recents_length] at among
  cases hit : (run.cache.lookup commandId).1 with
  | some event =>
      rw [hit, Option.map_some] at simulates
      obtain ⟨member, _⟩ := Lru.lookup_kept _ commandId event _ simulates
      have recent : commandId ∈ (recents run.used).take cap := by
        rw [← show run.cache.recency.keys = _ from remembers.holds]
        exact List.mem_map_of_mem member
      rw [DedupRun.since, if_pos (among.mp recent).2]
      exact (remembers.newest _ member).symm
  | none =>
      split
      · rename_i few
        cases new : run.stored commandId with
        | none => rfl
        | some event =>
            have member := remembers.known commandId (by rw [new]; rfl)
            rw [DedupRun.since, ← recents_length] at few
            obtain ⟨value, next, found⟩ := Lru.lookup_recent _ run.used commandId remembers.holds member few
            rw [hit, Option.map_none, found] at simulates
            cases simulates
      · rfl

end Steps

theorem run_remembers (cap : Nat) (run : DedupRun Event) (positive : 0 < cap) (ops : List (DedupOp Event))
    (remembers : Remembers cap run) : Remembers cap (ops.foldl DedupRun.op run) := by
  induction ops generalizing run with
  | nil => exact remembers
  | cons op rest ih =>
      refine ih (run.op op) ?_
      cases op with
      | store commandId event => exact store_remembers cap run remembers commandId event positive
      | lookup commandId => exact lookup_remembers cap run remembers commandId

theorem start_remembers (cap : Int) (positive : 1 ≤ cap) : Remembers cap.toNat (DedupRun.start cap : DedupRun Event) where
  sized := if_neg (by omega)
  sound := {
    indexed := fun commandId address => by
      constructor
      · intro same
        cases same
      · rintro ⟨element, held, _⟩
        cases held
    addressed := List.nodup_nil
    allocated := fun _ held => by cases held }
  holds := Lru.empty_holds cap.toNat
  newest := fun entry held => by cases held
  known := fun commandId some_ => by cases some_

theorem dedup_remembers (cap : Int) (positive : 1 ≤ cap) (ops : List (DedupOp Event)) :
    (∀ commandId, ((dedupRun cap ops).cache.index commandId).isSome = true ↔ commandId ∈ (dedupRun cap ops).cache.ids) ∧
      (dedupRun cap ops).cache.ids.Nodup ∧ (dedupRun cap ops).cache.ids.length ≤ cap.toNat ∧
      ∀ commandId, ((dedupRun cap ops).cache.lookup commandId).1 =
        if ((dedupRun cap ops).since commandId).card < cap.toNat then (dedupRun cap ops).stored commandId else none := by
  have remembers := run_remembers cap.toNat _ (by omega) ops (start_remembers cap positive)
  have sound := remembers.sound
  refine ⟨DedupCache.indexed_iff _ sound, DedupCache.ids_nodup _ sound, ?_, lookup_event cap.toNat _ remembers⟩
  have held : (dedupRun cap ops).cache.recency.keys = (recents (dedupRun cap ops).used).take cap.toNat := remembers.holds
  rw [← DedupCache.recency_keys, held]
  exact List.length_take_le _ _

def twoHeld : List (DedupOp Nat) := [.store "a" 1, .store "b" 2, .lookup "a", .store "c" 3]

theorem dedup_remembers_two : (dedupRun 2 twoHeld).cache.ids.length ≤ 2 ∧
    ((dedupRun 2 twoHeld).cache.lookup "a").1 = some 1 ∧ ((dedupRun 2 twoHeld).cache.lookup "b").1 = none := by
  obtain ⟨_, _, bounded, found⟩ := dedup_remembers 2 (by decide) twoHeld
  exact ⟨bounded, by rw [found]; rfl, by rw [found]; rfl⟩

end Yaaos.Agent
