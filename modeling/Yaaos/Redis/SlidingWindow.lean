import Mathlib.Data.List.MinMax
import Yaaos.Base.Machine

set_option autoImplicit false

namespace Yaaos.Redis

open Yaaos.Base

-- A member of the sorted set is a text, of a moment to six decimals and of a count.
-- Its score is the moment itself, of which `grain` units make a microsecond.
structure Entry where
  micros : Int
  count : Nat
  score : Int
  deriving DecidableEq

-- To the nearest microsecond, a tie to the even one.
def microseconds (grain : Nat) (now : Int) : Int :=
  let low := now / grain
  if 2 * (now % grain) < grain then low
  else if (grain : Int) < 2 * (now % grain) then low + 1
  else if low % 2 = 0 then low else low + 1

def Entry.hit (grain : Nat) (now : Int) (count : Nat) : Entry :=
  { micros := microseconds grain now, count := count, score := now }

def Entry.sameMember (entry other : Entry) : Prop := entry.micros = other.micros ∧ entry.count = other.count

instance (entry other : Entry) : Decidable (entry.sameMember other) := inferInstanceAs (Decidable (_ ∧ _))

-- A sorted set without members is no key, and has no time to live.
structure Key where
  entries : List Entry
  expiresAt : Option Int
  deriving DecidableEq

def Key.absent : Key := { entries := [], expiresAt := none }

def Key.live (key : Key) (clock : Int) : Key :=
  match key.expiresAt with
  | none => key
  | some expiry => if expiry ≤ clock then .absent else key

def Key.zremrangebyscore (key : Key) (cutoff : Int) : Key :=
  match key.entries.filter fun entry => decide (cutoff < entry.score) with
  | [] => .absent
  | first :: rest => { key with entries := first :: rest }

-- ZADD of a member that is there sets its score.
def Key.zadd (key : Key) (entry : Entry) : Key :=
  if ∃ other ∈ key.entries, other.sameMember entry then
    { key with entries := key.entries.map fun other => if other.sameMember entry then entry else other }
  else { key with entries := key.entries ++ [entry] }

def Key.expire (key : Key) (clock : Int) (window : Nat) : Key :=
  match key.entries with
  | [] => key
  | _ :: _ => Key.live { key with expiresAt := some (clock + window) } clock

-- The whole call while no other one is under way, and the key it leaves.
def slidingWindowHit (grain limit window : Nat) (key : Key) (now : Int) : Bool × Key :=
  let trimmed := (key.live now).zremrangebyscore (now - window)
  if limit ≤ trimmed.entries.length then (false, trimmed)
  else (true, (trimmed.zadd (.hit grain now trimmed.entries.length)).expire now window)

def slidingWindowHits (grain limit window : Nat) : Key → List Int → List Bool
  | _, [] => []
  | key, now :: rest =>
      let hit := slidingWindowHit grain limit window key now
      hit.1 :: slidingWindowHits grain limit window hit.2 rest

-- The limit as it is meant: a hit is admitted while fewer than `limit` admitted
-- ones are younger than the window.
def admissions (limit window : Nat) : List Int → List Int → List Bool
  | _, [] => []
  | log, now :: rest =>
      if (log.filter fun hit => decide (now < hit + window)).length < limit then
        true :: admissions limit window (log ++ [now]) rest
      else false :: admissions limit window log rest

theorem zremrangebyscore_entries (key : Key) (cutoff : Int) :
    (key.zremrangebyscore cutoff).entries = key.entries.filter fun entry => decide (cutoff < entry.score) := by
  unfold Key.zremrangebyscore
  cases kept : key.entries.filter fun entry => decide (cutoff < entry.score) with
  | nil => rfl
  | cons first rest => rfl

theorem zremrangebyscore_expiresAt (key : Key) (cutoff expiry : Int)
    (expires : (key.zremrangebyscore cutoff).expiresAt = some expiry) : key.expiresAt = some expiry := by
  unfold Key.zremrangebyscore at expires
  cases kept : key.entries.filter fun entry => decide (cutoff < entry.score) with
  | nil =>
      rw [kept] at expires
      cases expires
  | cons first rest =>
      rw [kept] at expires
      exact expires

theorem live_cases (key : Key) (clock : Int) :
    key.live clock = key ∨ key.live clock = .absent ∧ ∃ expiry, key.expiresAt = some expiry ∧ expiry ≤ clock := by
  unfold Key.live
  cases expires : key.expiresAt with
  | none => exact .inl rfl
  | some expiry =>
      by_cases past : expiry ≤ clock
      · exact .inr ⟨if_pos past, expiry, rfl, past⟩
      · exact .inl (if_neg past)

theorem expire_live (key : Key) (clock : Int) (window : Nat) (positive : 0 < window) (some_ : key.entries ≠ []) :
    key.expire clock window = { key with expiresAt := some (clock + window) } := by
  unfold Key.expire
  cases entries : key.entries with
  | nil => exact absurd entries some_
  | cons first rest => exact if_neg (by omega)

structure Mirrors (grain window : Nat) (key : Key) (log : List Int) (last : Int) : Prop where
  kept : key.entries.map Entry.score = log.filter fun hit => decide (last < hit + window)
  named : ∀ entry ∈ key.entries, entry.micros = microseconds grain entry.score
  lasting : ∀ expiry, key.expiresAt = some expiry → ∀ entry ∈ key.entries, entry.score + window ≤ expiry
  apart : ∀ entry ∈ key.entries, entry.score ≤ last ∧ (entry.score = last → entry.count < key.entries.length)

section Serial

variable {grain limit window : Nat} {key : Key} {log : List Int} {last now : Int}

theorem young (mirrors : Mirrors grain window key log last) (entry : Entry) (member : entry ∈ key.entries) :
    last < entry.score + window := by
  have listed := List.mem_map_of_mem (f := Entry.score) member
  rw [mirrors.kept] at listed
  exact of_decide_eq_true (List.mem_filter.mp listed).2

theorem trimmed_entries (mirrors : Mirrors grain window key log last) :
    ((key.live now).zremrangebyscore (now - window)).entries =
      key.entries.filter fun entry => decide (now < entry.score + window) := by
  have same : (fun entry : Entry => decide (now - window < entry.score)) = fun entry => decide (now < entry.score + window) := by
    funext entry
    exact decide_eq_decide.mpr (by omega)
  rw [zremrangebyscore_entries, same]
  rcases live_cases key now with alive | ⟨dead, expiry, expires, past⟩
  · rw [alive]
  · rw [dead]
    refine (List.filter_eq_nil_iff.mpr fun entry member => ?_).symm
    have until_ := mirrors.lasting expiry expires entry member
    simp only [decide_eq_true_eq]
    omega

theorem mirrors_trimmed (mirrors : Mirrors grain window key log last) (later : last ≤ now) :
    Mirrors grain window ((key.live now).zremrangebyscore (now - window)) log now where
  kept := by
    have maps : ∀ entries : List Entry, (entries.filter fun entry => decide (now < entry.score + window)).map Entry.score =
        (entries.map Entry.score).filter fun hit => decide (now < hit + window) := fun entries =>
      (List.filter_map (f := Entry.score) (p := fun hit : Int => decide (now < hit + window)) (l := entries)).symm
    rw [trimmed_entries mirrors, maps, mirrors.kept, List.filter_filter]
    refine List.filter_congr fun hit _ => ?_
    by_cases inside : now < hit + window
    · simp [inside, Int.lt_of_le_of_lt later inside]
    · simp [inside]
  named entry member := by
    rw [trimmed_entries mirrors] at member
    exact mirrors.named entry (List.mem_filter.mp member).1
  lasting expiry expires entry member := by
    rw [trimmed_entries mirrors] at member
    have before := zremrangebyscore_expiresAt _ _ _ expires
    rcases live_cases key now with alive | ⟨dead, _⟩
    · rw [alive] at before
      exact mirrors.lasting expiry before entry (List.mem_filter.mp member).1
    · rw [dead] at before
      cases before
  apart entry member := by
    rw [trimmed_entries mirrors] at member ⊢
    have old := (List.mem_filter.mp member).1
    obtain ⟨early, counted⟩ := mirrors.apart entry old
    refine ⟨early.trans later, fun present => ?_⟩
    have still : now = last := by omega
    have all : (key.entries.filter fun entry => decide (now < entry.score + window)) = key.entries :=
      List.filter_eq_self.mpr fun other there => by
        have fresh := young mirrors other there
        simp only [decide_eq_true_eq]
        omega
    rw [all]
    exact counted (by omega)

-- A hit of another moment has another text, and one of this moment a smaller count.
theorem mirrors_fresh (mirrors : Mirrors grain window key log now)
    (shown : ∀ hit ∈ log, microseconds grain hit = microseconds grain now → hit = now) :
    ¬ ∃ other ∈ key.entries, other.sameMember (.hit grain now key.entries.length) := by
  rintro ⟨other, member, moment, counted⟩
  have listed := List.mem_map_of_mem (f := Entry.score) member
  rw [mirrors.kept] at listed
  have present := shown other.score (List.mem_filter.mp listed).1 ((mirrors.named other member).symm.trans moment)
  have smaller := (mirrors.apart other member).2 present
  rw [counted] at smaller
  exact Nat.lt_irrefl _ smaller

theorem mirrors_added (mirrors : Mirrors grain window key log now) (positive : 0 < window)
    (shown : ∀ hit ∈ log, microseconds grain hit = microseconds grain now → hit = now) :
    Mirrors grain window ((key.zadd (.hit grain now key.entries.length)).expire now window) (log ++ [now]) now := by
  have added : (key.zadd (.hit grain now key.entries.length)).expire now window =
      { entries := key.entries ++ [.hit grain now key.entries.length], expiresAt := some (now + window) } := by
    unfold Key.zadd
    rw [if_neg (mirrors_fresh mirrors shown), expire_live _ now window positive (by simp)]
  rw [added]
  refine ⟨?_, ?_, ?_, ?_⟩
  · have present : decide (now < now + window) = true := decide_eq_true (by omega)
    simp only [List.map_append, mirrors.kept, List.filter_append, List.map_cons, List.map_nil, Entry.hit, List.filter_cons,
      present, if_true, List.filter_nil]
  · intro entry member
    rcases List.mem_append.mp member with old | new
    · exact mirrors.named entry old
    · rw [List.mem_singleton.mp new]
      rfl
  · intro expiry expires entry member
    cases expires
    rcases List.mem_append.mp member with old | new
    · have early := (mirrors.apart entry old).1
      omega
    · rw [List.mem_singleton.mp new]
      exact le_refl _
  · intro entry member
    rw [List.length_append, List.length_singleton]
    rcases List.mem_append.mp member with old | new
    · obtain ⟨early, counted⟩ := mirrors.apart entry old
      exact ⟨early, fun present => Nat.lt_succ_of_lt (counted present)⟩
    · rw [List.mem_singleton.mp new]
      exact ⟨le_refl now, fun _ => Nat.lt_succ_self _⟩

theorem hits_admissions (mirrors : Mirrors grain window key log last) (positive : 0 < window) (times : List Int)
    (ordered : (last :: times).Pairwise (· ≤ ·))
    (shown : (log ++ times).Pairwise fun hit other => microseconds grain hit = microseconds grain other → hit = other) :
    slidingWindowHits grain limit window key times = admissions limit window log times := by
  induction times generalizing key log last with
  | nil => rfl
  | cons now rest ih =>
      obtain ⟨first, later⟩ := List.pairwise_cons.mp ordered
      have trimmed := mirrors_trimmed mirrors (first now List.mem_cons_self)
      have size : ((key.live now).zremrangebyscore (now - window)).entries.length =
          (log.filter fun hit => decide (now < hit + window)).length := by
        rw [← trimmed.kept, List.length_map]
      simp only [slidingWindowHits, admissions, slidingWindowHit]
      by_cases full : limit ≤ ((key.live now).zremrangebyscore (now - window)).entries.length
      · rw [if_pos full, if_neg (by omega)]
        refine congrArg _ (ih trimmed later (shown.sublist ?_))
        exact (List.sublist_cons_self now rest).append_left log
      · rw [if_neg full, if_pos (by omega)]
        have before : ∀ hit ∈ log, microseconds grain hit = microseconds grain now → hit = now := fun hit member =>
          (List.pairwise_append.mp shown).2.2 hit member now List.mem_cons_self
        rw [List.append_cons] at shown
        exact congrArg _ (ih (mirrors_added trimmed positive before) later shown)

end Serial

theorem hits_refine (grain limit window : Nat) (times : List Int) (positive : 0 < window)
    (ordered : times.Pairwise (· ≤ ·))
    (shown : times.Pairwise fun hit other => microseconds grain hit = microseconds grain other → hit = other) :
    slidingWindowHits grain limit window .absent times = admissions limit window [] times := by
  cases times with
  | nil => rfl
  | cons now rest =>
      have blank : Mirrors grain window .absent [] now :=
        ⟨rfl, fun _ member => (by cases member), fun _ expires => (by cases expires), fun _ member => (by cases member)⟩
      refine hits_admissions blank positive (now :: rest) (List.pairwise_cons.mpr ⟨fun time member => ?_, ordered⟩) shown
      rcases List.mem_cons.mp member with rfl | inside
      · exact le_refl time
      · exact (List.pairwise_cons.mp ordered).1 time inside

def sampleHits : List Int := [1, 1, 80, 238, 243]

theorem hits_refine_minute : slidingWindowHits 4 2 240 .absent sampleHits = admissions 2 240 [] sampleHits :=
  hits_refine 4 2 240 sampleHits (by decide) (by decide) (by decide +kernel)

-- Two moments of one text are one member, and the set forgets a hit.
example : slidingWindowHits 4 2 240 .absent [1, 240, 241, 244] = [true, true, true, true] ∧
    admissions 2 240 [] [1, 240, 241, 244] = [true, true, true, false] := by decide +kernel

-- Where a call stands between its Redis commands.
inductive Phase where
  | idle
  | begun (now : Int)
  | trimmed (now : Int)
  | counted (now : Int) (count : Nat)
  | added
  deriving DecidableEq

-- Calls of several processes on one key. Redis keeps `clock`.
structure Racing where
  clock : Int
  key : Key
  calls : List Phase
  deriving DecidableEq

inductive Turn where
  | tick (later : Int)
  | begin (call : Nat) (now : Int)
  | proceed (call : Nat)
  | abandon (call : Nat)

def Racing.proceed (grain limit window : Nat) (state : Racing) (call : Nat) : Phase → Except Unit Racing
  | .idle => .error ()
  | .begun now => .ok { state with
      key := state.key.zremrangebyscore (now - window), calls := state.calls.set call (.trimmed now) }
  | .trimmed now =>
      let count := state.key.entries.length
      .ok { state with calls := state.calls.set call (if limit ≤ count then .idle else .counted now count) }
  | .counted now count => .ok { state with
      key := state.key.zadd (.hit grain now count), calls := state.calls.set call .added }
  | .added => .ok { state with
      key := state.key.expire state.clock window, calls := state.calls.set call .idle }

def Racing.step (grain limit window : Nat) (state : Racing) : Turn → Except Unit Racing
  | .tick later => .ok { state with clock := later, key := state.key.live later }
  | .begin call now =>
      if state.calls[call]? = some .idle then .ok { state with calls := state.calls.set call (.begun now) } else .error ()
  | .proceed call =>
      match state.calls[call]? with
      | none => .error ()
      | some phase => state.proceed grain limit window call phase
  | .abandon call => .ok { state with calls := state.calls.set call .idle }

-- At most `callers` calls at a time. The hosts of the callers may have any clock.
def racing (grain limit window callers : Nat) : Machine Racing Turn Unit where
  initial state := state.key = .absent ∧ state.calls = List.replicate callers .idle
  allowed state turn := match turn with
    | .tick later => state.clock ≤ later
    | _ => True
  step := Racing.step grain limit window

theorem alone_hit (grain limit window callers call : Nat) (state : Racing) (idle : state.calls[call]? = some .idle)
    (alive : state.key.live state.clock = state.key) :
    ((racing grain limit window callers).after state
      [.begin call state.clock, .proceed call, .proceed call, .proceed call, .proceed call]).key =
      (slidingWindowHit grain limit window state.key state.clock).2 := by
  have inside := (List.getElem?_eq_some_iff.mp idle).1
  simp only [Machine.after, List.foldl_cons, List.foldl_nil, Machine.committed, racing, Racing.step, if_pos idle,
    List.getElem?_set_self inside, Racing.proceed, slidingWindowHit, alive, List.set_set]
  by_cases full : limit ≤ (state.key.zremrangebyscore (state.clock - window)).entries.length
  · simp [full, inside]
  · simp [full, inside]

def Phase.isCounted : Phase → Bool
  | .counted _ _ => true
  | _ => false

-- A call that has counted may still add one member.
structure Bounded (limit callers : Nat) (state : Racing) : Prop where
  size : state.calls.length = callers
  room : state.key.entries.length + state.calls.countP Phase.isCounted ≤ limit + (callers - 1)

theorem zadd_length (key : Key) (entry : Entry) : (key.zadd entry).entries.length ≤ key.entries.length + 1 := by
  unfold Key.zadd
  split
  · rw [List.length_map]
    omega
  · rw [List.length_append, List.length_singleton]

theorem zremrangebyscore_length (key : Key) (cutoff : Int) :
    (key.zremrangebyscore cutoff).entries.length ≤ key.entries.length := by
  rw [zremrangebyscore_entries]
  exact List.length_filter_le _ _

theorem live_length (key : Key) (clock : Int) : (key.live clock).entries.length ≤ key.entries.length := by
  rcases live_cases key clock with alive | ⟨dead, _⟩
  · rw [alive]
  · rw [dead]
    exact Nat.zero_le _

theorem expire_length (key : Key) (clock : Int) (window : Nat) :
    (key.expire clock window).entries.length ≤ key.entries.length := by
  unfold Key.expire
  cases entries : key.entries with
  | nil => rw [entries]
  | cons first rest => exact (live_length _ clock).trans (by rw [← entries])

theorem counted_set (calls : List Phase) (call : Nat) (before after : Phase) (standing : calls[call]? = some before) :
    (calls.set call after).countP Phase.isCounted + before.isCounted.toNat =
      calls.countP Phase.isCounted + after.isCounted.toNat := by
  obtain ⟨inside, here⟩ := List.getElem?_eq_some_iff.mp standing
  rw [List.countP_set inside, here]
  cases old : before.isCounted with
  | false => cases after.isCounted <;> simp
  | true =>
      have least : 0 < calls.countP Phase.isCounted :=
        List.countP_pos_iff.mpr ⟨before, here ▸ List.getElem_mem inside, old⟩
      cases after.isCounted <;> simp <;> omega

theorem proceed_bounded (grain limit window callers call : Nat) (state next : Racing) (phase : Phase)
    (bounded : Bounded limit callers state) (standing : state.calls[call]? = some phase)
    (taken : state.proceed grain limit window call phase = .ok next) : Bounded limit callers next := by
  have moved := fun after => counted_set state.calls call phase after standing
  have room := bounded.room
  have inside := (List.getElem?_eq_some_iff.mp standing).1
  rw [bounded.size] at inside
  cases phase with
  | idle => cases taken
  | begun now =>
      cases taken
      refine ⟨(List.length_set).trans bounded.size, ?_⟩
      have shorter := zremrangebyscore_length state.key (now - window)
      have calls := moved (.trimmed now)
      simp only [Phase.isCounted, Bool.toNat_false] at calls ⊢
      omega
  | trimmed now =>
      cases taken
      refine ⟨(List.length_set).trans bounded.size, ?_⟩
      by_cases full : limit ≤ state.key.entries.length
      · have calls := moved .idle
        simp only [if_pos full, Phase.isCounted, Bool.toNat_false] at calls ⊢
        omega
      · have most := List.countP_le_length (p := Phase.isCounted)
          (l := state.calls.set call (.counted now state.key.entries.length))
        rw [List.length_set, bounded.size] at most
        simp only [if_neg full]
        omega
  | counted now count =>
      cases taken
      refine ⟨(List.length_set).trans bounded.size, ?_⟩
      have longer := zadd_length state.key (.hit grain now count)
      have calls := moved .added
      simp only [Phase.isCounted, Bool.toNat_false, Bool.toNat_true] at calls ⊢
      omega
  | added =>
      cases taken
      refine ⟨(List.length_set).trans bounded.size, ?_⟩
      have shorter := expire_length state.key state.clock window
      have calls := moved .idle
      simp only [Phase.isCounted, Bool.toNat_false] at calls ⊢
      omega

theorem step_bounded (grain limit window callers : Nat) (state next : Racing) (turn : Turn)
    (bounded : Bounded limit callers state) (taken : state.step grain limit window turn = .ok next) :
    Bounded limit callers next := by
  cases turn with
  | tick later =>
      cases taken
      have shorter := live_length state.key later
      have room := bounded.room
      exact ⟨bounded.size, by simp only; omega⟩
  | begin call now =>
      by_cases standing : state.calls[call]? = some .idle
      · simp only [Racing.step, if_pos standing] at taken
        cases taken
        refine ⟨(List.length_set).trans bounded.size, ?_⟩
        have calls := counted_set state.calls call .idle (.begun now) standing
        have room := bounded.room
        simp only [Phase.isCounted, Bool.toNat_false] at calls ⊢
        omega
      · simp only [Racing.step, if_neg standing] at taken
        cases taken
  | proceed call =>
      cases standing : state.calls[call]? with
      | none =>
          simp only [Racing.step, standing] at taken
          cases taken
      | some phase =>
          simp only [Racing.step, standing] at taken
          exact proceed_bounded grain limit window callers call state next phase bounded standing taken
  | abandon call =>
      cases taken
      refine ⟨(List.length_set).trans bounded.size, ?_⟩
      have room := bounded.room
      cases standing : state.calls[call]? with
      | none =>
          simp only [List.set_eq_of_length_le (List.getElem?_eq_none_iff.mp standing)]
          exact room
      | some phase =>
          have calls := counted_set state.calls call phase .idle standing
          simp only [Phase.isCounted, Bool.toNat_false] at calls ⊢
          omega

theorem initial_bounded (grain limit window callers : Nat) (start : Racing)
    (initial : (racing grain limit window callers).initial start) : Bounded limit callers start := by
  obtain ⟨absent, idle⟩ := initial
  refine ⟨by rw [idle, List.length_replicate], ?_⟩
  have none_ : start.calls.countP Phase.isCounted = 0 := by
    rw [idle, List.countP_replicate]
    rfl
  rw [absent, none_]
  exact Nat.zero_le _

theorem members_bounded (grain limit window callers : Nat) (state : Racing)
    (reachable : Reachable (racing grain limit window callers) state) : state.key.entries.length ≤ limit + (callers - 1) := by
  have bounded : Bounded limit callers state := reachable_invariant _ (Bounded limit callers)
    ⟨initial_bounded grain limit window callers, fun before turn after holds _ taken =>
      step_bounded grain limit window callers before after turn holds taken⟩ state reachable
  exact (Nat.le_add_right _ _).trans bounded.room

def sampleRace : List Turn := [.begin 0 1, .begin 1 2, .proceed 0, .proceed 1, .proceed 0, .proceed 1, .proceed 0, .proceed 1]

def sampleRacing : Racing := { clock := 5, key := .absent, calls := [.idle, .idle] }

theorem members_bounded_twice : ((racing 1 1 60 2).after sampleRacing sampleRace).key.entries.length ≤ 1 + (2 - 1) :=
  members_bounded 1 1 60 2 _ ⟨sampleRacing, sampleRace, ⟨rfl, rfl⟩, commits_path _ _ _
    ⟨trivial, rfl, trivial, rfl, trivial, rfl, trivial, rfl, trivial, rfl, trivial, rfl, trivial, rfl, trivial, rfl, trivial⟩⟩

end Yaaos.Redis
