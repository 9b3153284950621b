import Mathlib.Data.List.Count
import Mathlib.Data.List.Flatten
import Mathlib.Data.List.Perm.Basic
import Yaaos.Base.Json
import Yaaos.Base.Machine
import Yaaos.Base.Table

set_option autoImplicit false

namespace Yaaos.Tasks

open Yaaos.Base

abbrev Dispatcher := String → Dict Json → Except String Unit

def validUuid : Json → Bool
  | .null => true
  | .str text => (parseUuid text).isSome
  | _ => false

def validTraceparent : Json → Bool
  | .null => true
  | .str text => decide (text.length ≤ 55)
  | _ => false

def validMetadata : Json → Bool
  | .obj fields =>
      validUuid ((fields.lookup "org_id").getD .null) && validTraceparent ((fields.lookup "traceparent").getD .null)
  | _ => false

structure Broker where
  findTask : String → Bool
  kiq : String → Dict Json → Json → Except String Unit

def taskiqDispatcher (broker : Broker) : Dispatcher := fun kind payload =>
  if kind ≠ "taskiq_enqueue" then .error ("no dispatcher registered for kind='" ++ kind ++ "'")
  else
    let args := (payload.lookup "args").getD .null
    let args := if args.truthy then args else .obj []
    let metadata := (payload.lookup "metadata").getD .null
    match (payload.lookup "task_name").getD .null with
    | .str taskName =>
        if taskName = "" then .error "taskiq_enqueue payload missing task_name"
        else match args with
          | .obj args =>
              if broker.findTask taskName = false then .error ("taskiq task not registered: " ++ taskName)
              else match metadata with
                | .null => broker.kiq taskName args .null
                | metadata =>
                    if validMetadata metadata then broker.kiq taskName args metadata
                    else .error "validation error for TaskMetadata"
          | _ => .error "taskiq_enqueue args must be a dict"
    | _ => .error "taskiq_enqueue payload missing task_name"

variable (now : Nat)

structure OutboxEntry where
  id : Uuid
  kind : String
  payload : Dict Json
  createdAt : Nat
  dispatchedAt : Option Nat
  attempt : Nat
  lastError : Option String

def OutboxEntry.origin (row : OutboxEntry) : Uuid × String × Dict Json × Nat :=
  (row.id, row.kind, row.payload, row.createdAt)

-- One transaction of `drain_once`: the rows it locked, those it has handed over
-- with what came back, and every row its SELECT could have locked.
structure Pass where
  done : List (OutboxEntry × Except String Unit)
  todo : List OutboxEntry
  considered : List Uuid

def Pass.batch (pass : Pass) : List OutboxEntry := pass.done.map Prod.fst ++ pass.todo

-- `rows` is the committed table. The other fields record what happened: the calls
-- that returned, the rows as they were enqueued, and for a row the completed
-- passes that left it pending and the pending rows that ever preceded it.
structure Outbox where
  rows : Table OutboxEntry Uuid OutboxEntry.id
  passes : List Pass
  returned : List Uuid
  enqueued : List (Uuid × String × Dict Json × Nat)
  missed : Uuid → Nat
  ahead : Uuid → Nat

def Outbox.locked (outbox : Outbox) : List Uuid := outbox.passes.flatMap fun pass => pass.batch.map OutboxEntry.id

def Outbox.selectable (outbox : Outbox) : List OutboxEntry :=
  outbox.rows.rows.filter fun row => row.dispatchedAt.isNone && !outbox.locked.contains row.id

def precedes (other row : OutboxEntry) : Bool := decide (other.createdAt ≤ row.createdAt) && other.id != row.id

def pendingBefore (rows : List OutboxEntry) (row : OutboxEntry) : Nat :=
  rows.countP fun other => other.dispatchedAt.isNone && precedes other row

-- The two UPDATEs of a pass. An error text is cut to a thousand characters.
def stamp (now : Nat) (done : List (OutboxEntry × Except String Unit)) (row : OutboxEntry) : OutboxEntry :=
  match done.find? fun entry => entry.1.id == row.id with
  | none => row
  | some (_, .ok _) => { row with dispatchedAt := some now }
  | some (selected, .error reason) =>
      { row with attempt := selected.attempt + 1, lastError := some (String.ofList (reason.toList.take 1000)) }

@[simp]
theorem stamp_origin (done : List (OutboxEntry × Except String Unit)) (row : OutboxEntry) :
    (stamp now done row).origin = row.origin := by
  unfold stamp
  split <;> rfl

@[simp]
theorem stamp_id (done : List (OutboxEntry × Except String Unit)) (row : OutboxEntry) :
    (stamp now done row).id = row.id := congrArg Prod.fst (stamp_origin now done row)

inductive OutboxLabel where
  | write (id : Uuid) (kind : String) (payload : Dict Json) (createdAt : Nat)
  | select (order : List OutboxEntry)
  | dispatch (index : Nat)
  | commit (index now : Nat)
  | crash (index : Nat)

inductive OutboxError where
  | kindRequired
  | duplicateKey
  | noPass
  | unfinished

def Outbox.write (outbox : Outbox) (id : Uuid) (kind : String) (payload : Dict Json) (createdAt : Nat) :
    Except OutboxError Outbox :=
  let row : OutboxEntry :=
    { id := id, kind := kind, payload := payload, createdAt := createdAt, dispatchedAt := none, attempt := 0,
      lastError := none }
  if kind = "" then .error .kindRequired
  else match outbox.rows.insert? row with
    | none => .error .duplicateKey
    | some rows => .ok
        { outbox with
          rows := rows
          enqueued := outbox.enqueued ++ [row.origin]
          missed := Function.update outbox.missed id 0
          ahead := fun other =>
            if other = id then pendingBefore outbox.rows.rows row
            else outbox.ahead other + if (outbox.rows.find? other).any (precedes row) then 1 else 0 }

-- `order` is the selectable rows by `created_at`; ties come in any order.
def Outbox.select (outbox : Outbox) (batchSize : Nat) (order : List OutboxEntry) : Outbox :=
  { outbox with
    passes := outbox.passes ++
      [{ done := [], todo := order.take batchSize, considered := order.map OutboxEntry.id }] }

def Outbox.dispatch (outbox : Outbox) (dispatcher : Dispatcher) (index : Nat) : Except OutboxError Outbox :=
  match outbox.passes[index]? with
  | none => .error .noPass
  | some pass =>
      match pass.todo with
      | [] => .error .unfinished
      | row :: rest =>
          let outcome := dispatcher row.kind row.payload
          .ok { outbox with
            passes := outbox.passes.set index { pass with done := pass.done ++ [(row, outcome)], todo := rest }
            returned := if outcome.isOk then outbox.returned ++ [row.id] else outbox.returned }

def Outbox.commit (outbox : Outbox) (index now : Nat) : Except OutboxError Outbox :=
  match outbox.passes[index]? with
  | none => .error .noPass
  | some pass =>
      if pass.todo.isEmpty then
        let rows := outbox.rows.update (fun _ => true) (stamp now pass.done) (stamp_id now pass.done)
        .ok { outbox with
          rows := rows
          passes := outbox.passes.eraseIdx index
          missed := fun id =>
            outbox.missed id +
              if pass.considered.contains id && (rows.find? id).any (·.dispatchedAt.isNone) then 1 else 0 }
      else .error .unfinished

-- A process that dies, or a pass that raises, rolls back and drops its locks.
def Outbox.crash (outbox : Outbox) (index : Nat) : Outbox := { outbox with passes := outbox.passes.eraseIdx index }

structure Idle (outbox : Outbox) : Prop where
  passes : outbox.passes = []
  returned : ∀ row ∈ outbox.rows.rows, row.dispatchedAt.isSome → row.id ∈ outbox.returned
  enqueued : outbox.enqueued = outbox.rows.rows.map OutboxEntry.origin
  missed : ∀ row ∈ outbox.rows.rows, outbox.missed row.id = 0
  ahead : ∀ row ∈ outbox.rows.rows, outbox.ahead row.id = pendingBefore outbox.rows.rows row

def OutboxLabel.Allowed (outbox : Outbox) : OutboxLabel → Prop
  | .select order => order.Perm outbox.selectable ∧ order.Pairwise fun row next => row.createdAt ≤ next.createdAt
  | _ => True

def drain (batchSize : Nat) (dispatcher : Dispatcher) : Machine Outbox OutboxLabel OutboxError where
  initial := Idle
  allowed := OutboxLabel.Allowed
  step
    | outbox, .write id kind payload createdAt => outbox.write id kind payload createdAt
    | outbox, .select order => .ok (outbox.select batchSize order)
    | outbox, .dispatch index => outbox.dispatch dispatcher index
    | outbox, .commit index now => outbox.commit index now
    | outbox, .crash index => .ok (outbox.crash index)

section Sound

variable (batchSize : Nat) (dispatcher : Dispatcher)

def Healthy (row : OutboxEntry) : Prop := (dispatcher row.kind row.payload).isOk = true

-- Nothing is stamped early, nothing is lost, and a row that can be dispatched
-- waits for no more passes than the pending rows that were in front of it pay for.
structure Sound (bound : Nat → Nat) (outbox : Outbox) : Prop where
  stamped : ∀ row ∈ outbox.rows.rows, row.dispatchedAt.isSome → row.id ∈ outbox.returned
  kept : outbox.rows.rows.map OutboxEntry.origin = outbox.enqueued
  served : ∀ row ∈ outbox.rows.rows, Healthy dispatcher row → outbox.missed row.id ≤ bound (outbox.ahead row.id)

def Progresses (_ : Outbox) : OutboxLabel → Prop
  | .select order => order.length ≤ batchSize ∨ ∃ row ∈ order.take batchSize, Healthy dispatcher row
  | _ => True

structure Holds (outbox : Outbox) (pass : Pass) : Prop where
  pending : ∀ row ∈ pass.batch, row ∈ outbox.rows.rows ∧ row.dispatchedAt = none
  outcomes : ∀ entry ∈ pass.done, entry.2 = dispatcher entry.1.kind entry.1.payload ∧
    (entry.2.isOk = true → entry.1.id ∈ outbox.returned)
  leaves : ∀ row ∈ outbox.rows.rows, row.id ∈ pass.considered → row.id ∉ pass.batch.map OutboxEntry.id →
    (∀ other ∈ pass.batch, other.createdAt ≤ row.createdAt) ∧ ∃ other ∈ pass.batch, Healthy dispatcher other
  known : ∀ id ∈ pass.considered, id ∈ outbox.rows.rows.map OutboxEntry.id

structure Orderly (outbox : Outbox) : Prop where
  stamped : ∀ row ∈ outbox.rows.rows, row.dispatchedAt.isSome → row.id ∈ outbox.returned
  kept : outbox.rows.rows.map OutboxEntry.origin = outbox.enqueued
  apart : outbox.locked.Nodup
  holds : ∀ pass ∈ outbox.passes, Holds dispatcher outbox pass
  paid : ∀ row ∈ outbox.rows.rows, Healthy dispatcher row →
    outbox.missed row.id + pendingBefore outbox.rows.rows row ≤ outbox.ahead row.id

variable {batchSize dispatcher}

theorem orderly_sound (outbox : Outbox) (orderly : Orderly dispatcher outbox) : Sound dispatcher id outbox where
  stamped := orderly.stamped
  kept := orderly.kept
  served := fun row member healthy => (Nat.le_add_right _ _).trans (orderly.paid row member healthy)

theorem orderly_idle (outbox : Outbox) (idle : Idle outbox) : Orderly dispatcher outbox where
  stamped := idle.returned
  kept := idle.enqueued.symm
  apart := by simp [Outbox.locked, idle.passes]
  holds := by simp [idle.passes]
  paid := by
    intro row member _
    rw [idle.missed row member, idle.ahead row member, Nat.zero_add]

theorem pendingBefore_append (rows : List OutboxEntry) (added row : OutboxEntry) (pending : added.dispatchedAt = none) :
    pendingBefore (rows ++ [added]) row = pendingBefore rows row + if precedes added row then 1 else 0 := by
  simp [pendingBefore, List.countP_append, List.countP_singleton, pending]

theorem orderly_write (outbox next : Outbox) (id : Uuid) (kind : String) (payload : Dict Json) (createdAt : Nat)
    (orderly : Orderly dispatcher outbox) (written : outbox.write id kind payload createdAt = .ok next) :
    Orderly dispatcher next := by
  unfold Outbox.write at written
  dsimp only at written
  split at written
  · cases written
  · split at written
    · cases written
    · rename_i rows inserted
      cases written
      obtain ⟨grown, fresh⟩ := outbox.rows.insert?_some _ _ inserted
      refine ⟨fun row member => ?_, ?_, orderly.apart, fun pass open_ => ?_, fun row member healthy => ?_⟩
      · rw [grown] at member
        rcases List.mem_append.mp member with old | new
        · exact orderly.stamped row old
        · rw [List.mem_singleton.mp new]
          intro stamped
          cases stamped
      · simp only [grown, List.map_append, orderly.kept, List.map_singleton]
      · have holds := orderly.holds pass open_
        refine ⟨fun row member => ?_, holds.outcomes, fun row member seen => ?_, fun seen member => ?_⟩
        · rw [grown]
          exact (holds.pending row member).imp_left (List.mem_append_left _)
        · rw [grown] at member
          rcases List.mem_append.mp member with old | new
          · exact holds.leaves row old seen
          · rw [List.mem_singleton.mp new] at seen
            obtain ⟨other, present, same⟩ := List.mem_map.mp (holds.known _ seen)
            exact absurd same (fresh other present)
        · rw [grown, List.map_append]
          exact List.mem_append_left _ (holds.known seen member)
      · rw [grown] at member ⊢
        rw [pendingBefore_append _ _ _ rfl]
        rcases List.mem_append.mp member with old | new
        · have distinct : row.id ≠ id := fresh row old
          have before := orderly.paid row old healthy
          simp only [Function.update_of_ne distinct, if_neg distinct, outbox.rows.find?_of_mem row old, Option.any_some]
          omega
        · rw [List.mem_singleton.mp new]
          simp [precedes]

theorem orderly_select (outbox : Outbox) (order : List OutboxEntry) (orderly : Orderly dispatcher outbox)
    (allowed : (OutboxLabel.select order).Allowed outbox) (progresses : Progresses batchSize dispatcher outbox (.select order)) :
    Orderly dispatcher (outbox.select batchSize order) := by
  obtain ⟨perm, sorted⟩ := allowed
  have selected (row : OutboxEntry) (member : row ∈ order) :
      row ∈ outbox.rows.rows ∧ row.dispatchedAt = none ∧ row.id ∉ outbox.locked := by
    have found := perm.mem_iff.mp member
    simpa [Outbox.selectable] using found
  refine ⟨orderly.stamped, orderly.kept, ?_, fun pass member => ?_, orderly.paid⟩
  · have distinct : (order.map OutboxEntry.id).Nodup :=
      (perm.map _).nodup_iff.mpr (outbox.rows.unique.sublist (List.filter_sublist.map _))
    have taken : ((order.take batchSize).map OutboxEntry.id).Nodup :=
      distinct.sublist ((List.take_sublist _ _).map _)
    simp only [Outbox.locked, Outbox.select, List.flatMap_append, List.flatMap_singleton, Pass.batch, List.map_nil,
      List.nil_append]
    refine orderly.apart.append taken fun id held new => ?_
    obtain ⟨row, member, rfl⟩ := List.mem_map.mp new
    exact (selected row (List.mem_of_mem_take member)).2.2 held
  · rcases List.mem_append.mp member with old | new
    · have holds := orderly.holds pass old
      exact ⟨holds.pending, holds.outcomes, holds.leaves, holds.known⟩
    · rw [List.mem_singleton.mp new]
      refine ⟨fun row member => ?_, nofun, fun row present seen left => ?_, fun id seen => ?_⟩
      · have found := selected row (List.mem_of_mem_take member)
        exact ⟨found.1, found.2.1⟩
      · obtain ⟨found, listed, same⟩ := List.mem_map.mp seen
        rw [outbox.rows.eq_of_key found row (selected found listed).1 present same] at listed
        have later : row ∈ order.drop batchSize := by
          rw [← List.take_append_drop batchSize order] at listed
          rcases List.mem_append.mp listed with early | late
          · exact absurd (List.mem_map_of_mem early) left
          · exact late
        rw [← List.take_append_drop batchSize order] at sorted
        refine ⟨fun other early => (List.pairwise_append.mp sorted).2.2 other early row later, ?_⟩
        rcases progresses with short | healthy
        · rw [List.drop_eq_nil_of_le short] at later
          cases later
        · exact healthy
      · obtain ⟨row, listed, same⟩ := List.mem_map.mp seen
        exact List.mem_map.mpr ⟨row, (selected row listed).1, same⟩

theorem locked_set (passes : List Pass) (index : Nat) (pass changed : Pass) (here : passes[index]? = some pass)
    (same : changed.batch = pass.batch) :
    ((passes.set index changed).flatMap fun other => other.batch.map OutboxEntry.id) =
      passes.flatMap fun other => other.batch.map OutboxEntry.id := by
  induction passes generalizing index with
  | nil => rfl
  | cons first rest ih =>
      cases index with
      | zero =>
          cases here
          simp [same]
      | succ index => simp [ih index (by simpa using here)]

theorem orderly_dispatch (outbox next : Outbox) (index : Nat) (orderly : Orderly dispatcher outbox)
    (dispatched : outbox.dispatch dispatcher index = .ok next) : Orderly dispatcher next := by
  unfold Outbox.dispatch at dispatched
  split at dispatched
  · cases dispatched
  · rename_i pass here
    split at dispatched
    · cases dispatched
    · rename_i row rest todo
      cases dispatched
      have grows (id : Uuid) (before : id ∈ outbox.returned) :
          id ∈ if (dispatcher row.kind row.payload).isOk then outbox.returned ++ [row.id] else outbox.returned := by
        split
        · exact List.mem_append_left _ before
        · exact before
      have sameBatch : Pass.batch { pass with done := pass.done ++ [(row, dispatcher row.kind row.payload)], todo := rest } =
          pass.batch := by simp [Pass.batch, todo]
      refine ⟨fun other member stamped => grows _ (orderly.stamped other member stamped), orderly.kept, ?_,
        fun other member => ?_, orderly.paid⟩
      · have apart := orderly.apart
        rw [Outbox.locked] at apart ⊢
        rw [locked_set outbox.passes index pass _ here sameBatch]
        exact apart
      · rcases List.mem_or_eq_of_mem_set member with old | rfl
        · have holds := orderly.holds other old
          exact ⟨holds.pending, fun entry listed =>
            (holds.outcomes entry listed).imp_right fun back ok => grows _ (back ok), holds.leaves, holds.known⟩
        · have holds := orderly.holds pass (List.mem_of_getElem? here)
          refine ⟨fun held member => holds.pending held (sameBatch ▸ member), fun entry listed => ?_,
            fun left present seen out => ?_, holds.known⟩
          · rcases List.mem_append.mp listed with old | new
            · exact (holds.outcomes entry old).imp_right fun back ok => grows _ (back ok)
            · rw [List.mem_singleton.mp new]
              refine ⟨rfl, fun ok => ?_⟩
              simp only at ok
              simp [ok]
          · rw [sameBatch] at out ⊢
            exact holds.leaves left present seen out

theorem stamp_other (done : List (OutboxEntry × Except String Unit)) (row : OutboxEntry)
    (other : row.id ∉ (done.map Prod.fst).map OutboxEntry.id) : stamp now done row = row := by
  unfold stamp
  split
  · rfl
  all_goals
    rename_i found
    have same := by simpa using List.find?_some found
    exact absurd (List.mem_map.mpr ⟨_, List.mem_map_of_mem (List.mem_of_find?_eq_some found), same⟩) other

theorem stamp_own (outbox : Outbox) (pass : Pass) (holds : Holds dispatcher outbox pass)
    (row : OutboxEntry) (member : row ∈ outbox.rows.rows) (own : row.id ∈ (pass.done.map Prod.fst).map OutboxEntry.id) :
    (stamp now pass.done row).dispatchedAt = some now ∧ Healthy dispatcher row ∧ row.id ∈ outbox.returned ∨
      (stamp now pass.done row).dispatchedAt = row.dispatchedAt ∧ ¬ Healthy dispatcher row := by
  unfold stamp
  split
  · rename_i missing
    simp only [List.mem_map] at own
    obtain ⟨_, ⟨entry, done, rfl⟩, same⟩ := own
    have skipped := List.find?_eq_none.mp missing entry done
    simp [same] at skipped
  all_goals
    rename_i found
    have done := List.mem_of_find?_eq_some found
    have same := by simpa using List.find?_some found
    have selected := outbox.rows.eq_of_key _ row
      (holds.pending _ (List.mem_append_left _ (List.mem_map_of_mem done))).1 member same
    obtain ⟨outcome, back⟩ := holds.outcomes _ done
    dsimp only at selected outcome back
    subst selected
  · exact .inl ⟨rfl, by rw [Healthy, ← outcome]; rfl, back rfl⟩
  · refine .inr ⟨rfl, fun healthy => ?_⟩
    rw [Healthy, ← outcome] at healthy
    cases healthy

theorem stamp_kept (done : List (OutboxEntry × Except String Unit)) (row : OutboxEntry) :
    (stamp now done row).kind = row.kind ∧ (stamp now done row).payload = row.payload ∧
      (stamp now done row).createdAt = row.createdAt := by
  have same := stamp_origin now done row
  simp only [OutboxEntry.origin, Prod.mk.injEq] at same
  exact same.2

theorem stamp_pending (done : List (OutboxEntry × Except String Unit)) (row : OutboxEntry)
    (pending : (stamp now done row).dispatchedAt = none) : row.dispatchedAt = none := by
  unfold stamp at pending
  split at pending
  · exact pending
  · cases pending
  · exact pending

theorem apart_erased (passes : List Pass) (index : Nat) (pass other : Pass) (here : passes[index]? = some pass)
    (apart : (passes.flatMap fun pass => pass.batch.map OutboxEntry.id).Nodup) (member : other ∈ passes.eraseIdx index) :
    ∀ id ∈ other.batch.map OutboxEntry.id, id ∉ pass.batch.map OutboxEntry.id := by
  induction passes generalizing index with
  | nil => cases here
  | cons first rest ih =>
      rw [List.flatMap_cons, List.nodup_append'] at apart
      obtain ⟨_, restApart, disjoint⟩ := apart
      cases index with
      | zero =>
          cases here
          intro id listed own
          exact disjoint own (List.mem_flatMap.mpr ⟨other, member, listed⟩)
      | succ index =>
          have later : pass ∈ rest := List.mem_of_getElem? (i := index) (by simpa using here)
          rcases List.mem_cons.mp member with rfl | within
          · exact fun id listed own => disjoint listed (List.mem_flatMap.mpr ⟨pass, later, own⟩)
          · exact ih index (by simpa using here) restApart within

theorem pending_stamped (pass : Pass) (row : OutboxEntry) (rows : List OutboxEntry) :
    ∀ other ∈ rows, ((stamp now pass.done other).dispatchedAt.isNone && precedes other row) = true →
      (other.dispatchedAt.isNone && precedes other row) = true := by
  intro other _ pending
  simp only [Bool.and_eq_true, Option.isNone_iff_eq_none] at pending ⊢
  exact pending.imp_left (stamp_pending now pass.done other)

theorem pendingBefore_stamped (pass : Pass) (row : OutboxEntry) (rows : List OutboxEntry) :
    pendingBefore (rows.map (stamp now pass.done)) (stamp now pass.done row) =
      rows.countP fun other => (stamp now pass.done other).dispatchedAt.isNone && precedes other row := by
  rw [pendingBefore, List.countP_map]
  apply List.countP_congr
  intro other _
  simp [precedes, (stamp_kept now pass.done _).2.2]

theorem countP_less (rows : List OutboxEntry) (before after : OutboxEntry → Bool) (row : OutboxEntry)
    (implies : ∀ row ∈ rows, after row = true → before row = true) (member : row ∈ rows) (counted : before row = true)
    (left : after row = false) : rows.countP after < rows.countP before := by
  induction rows with
  | nil => cases member
  | cons first rest ih =>
      have restImplies := fun row inside => implies row (List.mem_cons_of_mem first inside)
      have fewer := List.countP_mono_left restImplies
      rw [List.countP_cons, List.countP_cons]
      rcases List.mem_cons.mp member with rfl | inside
      · simp only [counted, left, if_true, Bool.false_eq_true, if_false]
        omega
      · have strictly := ih restImplies inside
        have head := implies first List.mem_cons_self
        by_cases now : after first = true
        · simp only [now, head now, if_true]
          omega
        · simp only [now, Bool.false_eq_true, if_false]
          omega

theorem orderly_commit (outbox next : Outbox) (index now : Nat) (orderly : Orderly dispatcher outbox)
    (committed : outbox.commit index now = .ok next) : Orderly dispatcher next := by
  unfold Outbox.commit at committed
  split at committed
  · cases committed
  · rename_i pass here
    split at committed
    · rename_i finished
      cases committed
      have holds := orderly.holds pass (List.mem_of_getElem? here)
      have batch : pass.batch = pass.done.map Prod.fst := by
        rw [Pass.batch, List.isEmpty_iff.mp finished, List.append_nil]
      have table : (outbox.rows.update (fun _ => true) (stamp now pass.done) (stamp_id now pass.done)).rows =
          outbox.rows.rows.map (stamp now pass.done) := by simp [Table.update]
      refine ⟨fun row member stamped => ?_, ?_, ?_, fun other member => ?_, fun row member healthy => ?_⟩
      · rw [table] at member
        obtain ⟨old, present, rfl⟩ := List.mem_map.mp member
        rw [stamp_id]
        by_cases own : old.id ∈ (pass.done.map Prod.fst).map OutboxEntry.id
        · rcases stamp_own now outbox pass holds old present own with ⟨_, _, back⟩ | ⟨same, _⟩
          · exact back
          · exact orderly.stamped old present (same ▸ stamped)
        · rw [stamp_other now pass.done old own] at stamped
          exact orderly.stamped old present stamped
      · rw [table, List.map_map, ← orderly.kept]
        exact List.map_congr_left fun row _ => stamp_origin now pass.done row
      · exact orderly.apart.sublist ((List.eraseIdx_sublist outbox.passes index).flatMap _)
      · have kept := orderly.holds other (List.mem_of_mem_eraseIdx member)
        have apart := apart_erased outbox.passes index pass other here orderly.apart member
        refine ⟨fun row listed => ?_, kept.outcomes, fun row present seen out => ?_, fun id seen => ?_⟩
        · obtain ⟨present, pending⟩ := kept.pending row listed
          have free := apart row.id (List.mem_map_of_mem listed)
          rw [batch] at free
          rw [table]
          exact ⟨List.mem_map.mpr ⟨row, present, stamp_other now pass.done row free⟩, pending⟩
        · rw [table] at present
          obtain ⟨old, before, rfl⟩ := List.mem_map.mp present
          rw [stamp_id] at seen out
          rw [(stamp_kept now pass.done old).2.2]
          exact kept.leaves old before seen out
        · rw [table, List.map_map]
          have ids : OutboxEntry.id ∘ stamp now pass.done = OutboxEntry.id := funext fun row => stamp_id now pass.done row
          rw [ids]
          exact kept.known id seen
      · have found := Table.find?_of_mem _ row member
        rw [table] at member
        obtain ⟨old, present, rfl⟩ := List.mem_map.mp member
        rw [stamp_id] at found
        have wasHealthy : Healthy dispatcher old := by
          rw [Healthy, (stamp_kept now pass.done old).1, (stamp_kept now pass.done old).2.1] at healthy
          exact healthy
        have before := orderly.paid old present wasHealthy
        rw [table, stamp_id, pendingBefore_stamped]
        simp only [found, Option.any_some]
        by_cases left : (pass.considered.contains old.id && (stamp now pass.done old).dispatchedAt.isNone) = true
        · -- A row that stays pending is not one of the batch, so a row before it was stamped.
          obtain ⟨seen, pending⟩ := Bool.and_eq_true_iff.mp left
          have out : old.id ∉ pass.batch.map OutboxEntry.id := by
            intro own
            rw [batch] at own
            rcases stamp_own now outbox pass holds old present own with ⟨done, _⟩ | ⟨_, sick⟩
            · rw [done] at pending
              cases pending
            · exact sick wasHealthy
          obtain ⟨earlier, other, inBatch, otherHealthy⟩ := holds.leaves old present (by simpa using seen) out
          obtain ⟨otherPresent, otherPending⟩ := holds.pending other inBatch
          have stamped : (stamp now pass.done other).dispatchedAt = some now := by
            have own := List.mem_map_of_mem (f := OutboxEntry.id) inBatch
            rw [batch] at own
            rcases stamp_own now outbox pass holds other otherPresent own with ⟨done, _⟩ | ⟨_, sick⟩
            · exact done
            · exact absurd otherHealthy sick
          have distinct : other.id ≠ old.id := fun same => out (List.mem_map.mpr ⟨other, inBatch, same⟩)
          have fewer := countP_less outbox.rows.rows
            (fun other => other.dispatchedAt.isNone && precedes other old)
            (fun other => (stamp now pass.done other).dispatchedAt.isNone && precedes other old) other
            (pending_stamped now pass old _) otherPresent
            (by simp [otherPending, precedes, earlier other inBatch, distinct]) (by simp [stamped])
          rw [pendingBefore] at before
          rw [if_pos left]
          omega
        · have fewer := List.countP_mono_left (pending_stamped now pass old outbox.rows.rows)
          rw [pendingBefore] at before
          rw [if_neg left]
          omega
    · cases committed

theorem orderly_crash (outbox : Outbox) (index : Nat) (orderly : Orderly dispatcher outbox) :
    Orderly dispatcher (outbox.crash index) where
  stamped := orderly.stamped
  kept := orderly.kept
  apart := orderly.apart.sublist ((List.eraseIdx_sublist outbox.passes index).flatMap _)
  holds := fun pass member =>
    have holds := orderly.holds pass (List.mem_of_mem_eraseIdx member)
    ⟨holds.pending, holds.outcomes, holds.leaves, holds.known⟩
  paid := orderly.paid

theorem orderly_inductive :
    Inductive ((drain batchSize dispatcher).restrict (Progresses batchSize dispatcher)) (Orderly dispatcher) where
  initially := orderly_idle
  kept := by
    rintro outbox label next orderly ⟨allowed, progresses⟩ taken
    cases label with
    | write id kind payload createdAt => exact orderly_write outbox next id kind payload createdAt orderly taken
    | select order =>
        cases taken
        exact orderly_select outbox order orderly allowed progresses
    | dispatch index => exact orderly_dispatch outbox next index orderly taken
    | commit index now => exact orderly_commit outbox next index now orderly taken
    | crash index =>
        cases taken
        exact orderly_crash outbox index orderly

theorem drain_sound (outbox : Outbox)
    (reachable : Reachable ((drain batchSize dispatcher).restrict (Progresses batchSize dispatcher)) outbox) :
    Sound dispatcher id outbox :=
  orderly_sound outbox (reachable_invariant _ _ orderly_inductive outbox reachable)

end Sound

section Starving

variable (batchSize : Nat) (dispatcher : Dispatcher)

structure Starved (outbox : Outbox) (row : OutboxEntry) (order : List OutboxEntry) : Prop where
  passes : outbox.passes = []
  waiting : row ∈ outbox.selectable
  perm : order.Perm outbox.selectable
  sorted : order.Pairwise fun row next => row.createdAt ≤ next.createdAt
  failing : ∀ other ∈ order.take batchSize, (dispatcher other.kind other.payload).isOk = false
  behind : row.id ∉ (order.take batchSize).map OutboxEntry.id

variable {batchSize dispatcher}

def attempted (dispatcher : Dispatcher) (row : OutboxEntry) : OutboxEntry × Except String Unit :=
  (row, dispatcher row.kind row.payload)

theorem dispatch_all (outbox : Outbox) (todo : List OutboxEntry) (done : List (OutboxEntry × Except String Unit))
    (considered : List Uuid) (failing : ∀ row ∈ todo, (dispatcher row.kind row.payload).isOk = false)
    (only : outbox.passes = [{ done := done, todo := todo, considered := considered }]) :
    ∃ labels, Path (drain batchSize dispatcher) outbox labels
      { outbox with
        passes := [{ done := done ++ todo.map (attempted dispatcher), todo := [], considered := considered }] } := by
  induction todo generalizing outbox done with
  | nil =>
      refine ⟨[], ?_⟩
      rw [List.map_nil, List.append_nil, ← only]
      exact .nil outbox
  | cons row rest ih =>
      let taken : Outbox :=
        { outbox with passes := [{ done := done ++ [attempted dispatcher row], todo := rest, considered := considered }] }
      obtain ⟨labels, path⟩ := ih taken (done ++ [attempted dispatcher row])
        (fun other member => failing other (List.mem_cons_of_mem row member)) rfl
      refine ⟨.dispatch 0 :: labels, .cons _ taken _ _ _ trivial ?_ ?_⟩
      · simp [drain, Outbox.dispatch, only, failing row List.mem_cons_self, attempted, taken]
      · simpa [attempted, taken] using path

theorem stamp_failing (done : List (OutboxEntry × Except String Unit))
    (failing : ∀ entry ∈ done, entry.2.isOk = false) (row : OutboxEntry) :
    (stamp now done row).dispatchedAt = row.dispatchedAt := by
  unfold stamp
  split
  · rfl
  · rename_i found
    cases failing _ (List.mem_of_find?_eq_some found)
  · rfl

theorem starved_pass (outbox : Outbox) (row : OutboxEntry) (order : List OutboxEntry)
    (starved : Starved batchSize dispatcher outbox row order) :
    ∃ labels next nextOrder, Path (drain batchSize dispatcher) outbox labels next ∧
      Starved batchSize dispatcher next row nextOrder ∧ next.missed row.id = outbox.missed row.id + 1 ∧
      next.ahead row.id = outbox.ahead row.id := by
  let done := (order.take batchSize).map (attempted dispatcher)
  have failing : ∀ entry ∈ done, entry.2.isOk = false := by
    intro entry member
    obtain ⟨other, taken, rfl⟩ := List.mem_map.mp member
    exact starved.failing other taken
  have rowsOf : (done.map Prod.fst).map OutboxEntry.id = (order.take batchSize).map OutboxEntry.id := by
    simp [done, attempted, Function.comp_def]
  have spared : stamp 0 done row = row := stamp_other 0 done row (by rw [rowsOf]; exact starved.behind)
  have free : outbox.locked = [] := by simp [Outbox.locked, starved.passes]
  have waits : row ∈ outbox.rows.rows ∧ row.dispatchedAt = none := by
    simpa [Outbox.selectable, free] using starved.waiting
  let opened := outbox.select batchSize order
  obtain ⟨labels, dispatched⟩ := @dispatch_all batchSize dispatcher opened (order.take batchSize) []
    (order.map OutboxEntry.id) starved.failing (by simp [opened, Outbox.select, starved.passes])
  let rows := outbox.rows.update (fun _ => true) (stamp 0 done) (stamp_id 0 done)
  have table : rows.rows = outbox.rows.rows.map (stamp 0 done) := by simp [rows, Table.update]
  let next : Outbox :=
    { outbox with
      rows := rows
      passes := []
      missed := fun id =>
        outbox.missed id +
          if (order.map OutboxEntry.id).contains id && (rows.find? id).any (·.dispatchedAt.isNone) then 1 else 0 }
  have selects : next.selectable = outbox.selectable.map (stamp 0 done) := by
    have nextFree : next.locked = [] := rfl
    simp only [Outbox.selectable, free, nextFree, List.contains_nil, Bool.not_false, Bool.and_true]
    rw [show next.rows.rows = _ from table, List.filter_map]
    exact congrArg _ (List.filter_congr fun other _ => by simp [stamp_failing 0 done failing])
  refine ⟨[.select order] ++ labels ++ [.commit 0 0], next, order.map (stamp 0 done), ?_, ?_, ?_, rfl⟩
  · have selected : Path (drain batchSize dispatcher) outbox [.select order] opened :=
      path_single (drain batchSize dispatcher) outbox opened (.select order) ⟨starved.perm, starved.sorted⟩ rfl
    refine path_append _ _ _ _ _ _ (path_append _ _ _ _ _ _ selected dispatched) ?_
    refine path_single _ _ _ _ trivial ?_
    simp [drain, Outbox.commit, next, opened, Outbox.select, starved.passes, rows, done]
  · refine ⟨rfl, ?_, ?_, ?_, ?_, ?_⟩
    · rw [selects, ← spared]
      exact List.mem_map_of_mem starved.waiting
    · rw [selects]
      exact starved.perm.map _
    · rw [List.pairwise_map]
      exact starved.sorted.imp fun earlier => by
        rw [(stamp_kept 0 done _).2.2, (stamp_kept 0 done _).2.2]
        exact earlier
    · intro other member
      rw [← List.map_take] at member
      obtain ⟨old, taken, rfl⟩ := List.mem_map.mp member
      rw [(stamp_kept 0 done old).1, (stamp_kept 0 done old).2.1]
      exact starved.failing old taken
    · have ids : OutboxEntry.id ∘ stamp 0 done = OutboxEntry.id := funext fun row => stamp_id 0 done row
      rw [← List.map_take, List.map_map, ids]
      exact starved.behind
  · have seen : (order.map OutboxEntry.id).contains row.id = true := by
      simpa using List.mem_map_of_mem (f := OutboxEntry.id) (starved.perm.mem_iff.mpr starved.waiting)
    have found : rows.find? row.id = some row := by
      refine rows.find?_of_mem row ?_
      rw [table, ← spared]
      exact List.mem_map_of_mem waits.1
    simp only [next, seen, found, Option.any_some, waits.2, Option.isNone_none, Bool.and_self, if_true]

theorem starves (outbox : Outbox) (row : OutboxEntry) (order : List OutboxEntry)
    (reachable : Reachable (drain batchSize dispatcher) outbox) (starved : Starved batchSize dispatcher outbox row order)
    (count : Nat) :
    ∃ later nextOrder, Reachable (drain batchSize dispatcher) later ∧ Starved batchSize dispatcher later row nextOrder ∧
      later.missed row.id = outbox.missed row.id + count ∧ later.ahead row.id = outbox.ahead row.id := by
  induction count with
  | zero => exact ⟨outbox, order, reachable, starved, rfl, rfl⟩
  | succ count ih =>
      obtain ⟨later, laterOrder, reached, waits, missed, ahead⟩ := ih
      obtain ⟨labels, next, nextOrder, path, still, again, same⟩ := starved_pass later row laterOrder waits
      exact ⟨next, nextOrder, reachable_path _ later next labels reached path, still, by rw [again, missed]; rfl,
        same.trans ahead⟩

end Starving

def sampleBroker : Broker := { findTask := fun name => name == "live", kiq := fun _ _ _ => .ok () }

def sampleEntry (size id : Nat) : OutboxEntry :=
  { id := id, kind := "taskiq_enqueue", payload := [("task_name", .str (if id < size then "retired" else "live"))],
    createdAt := id, dispatchedAt := none, attempt := 0, lastError := none }

theorem sampleEntry_ids (size count : Nat) : ((List.range count).map (sampleEntry size)).map OutboxEntry.id = List.range count := by
  rw [List.map_map]
  exact List.map_id _

-- `count` messages, the first `size` of them of the dropped task.
def sampleOutbox (size count : Nat) : Outbox :=
  let rows := (List.range count).map (sampleEntry size)
  { rows := { rows := rows, unique := by rw [sampleEntry_ids]; exact List.nodup_range }
    passes := []
    returned := []
    enqueued := rows.map OutboxEntry.origin
    missed := fun _ => 0
    ahead := fun id => pendingBefore rows (sampleEntry size id) }

theorem sampleOutbox_idle (size count : Nat) : Idle (sampleOutbox size count) where
  passes := rfl
  returned := by
    intro row member stamped
    obtain ⟨id, _, rfl⟩ := List.mem_map.mp member
    cases stamped
  enqueued := rfl
  missed := fun _ _ => rfl
  ahead := by
    intro row member
    obtain ⟨id, _, rfl⟩ := List.mem_map.mp member
    rfl

theorem sampleOutbox_starved (size : Nat) :
    Starved size (taskiqDispatcher sampleBroker) (sampleOutbox size (size + 1)) (sampleEntry size size)
      (sampleOutbox size (size + 1)).rows.rows := by
  have selects : (sampleOutbox size (size + 1)).selectable = (sampleOutbox size (size + 1)).rows.rows := by
    rw [Outbox.selectable, List.filter_eq_self]
    intro row member
    obtain ⟨id, _, rfl⟩ := List.mem_map.mp member
    rfl
  have front : (sampleOutbox size (size + 1)).rows.rows.take size = (List.range size).map (sampleEntry size) := by
    simp [sampleOutbox, ← List.map_take, List.take_range]
  refine ⟨rfl, ?_, by rw [selects], ?_, ?_, ?_⟩
  · rw [selects]
    exact List.mem_map_of_mem (List.mem_range.mpr (Nat.lt_succ_self size))
  · exact List.pairwise_map.mpr (List.pairwise_lt_range.imp Nat.le_of_lt)
  · rw [front]
    intro row member
    obtain ⟨id, early, rfl⟩ := List.mem_map.mp member
    have retired : (sampleEntry size id).payload = [("task_name", .str "retired")] := by
      simp [sampleEntry, List.mem_range.mp early]
    rw [retired]
    rfl
  · rw [front, sampleEntry_ids]
    simp [sampleEntry]

-- At the batch size of the loop no number of passes is enough for the last row.
theorem drain_starves :
    ¬ ∃ bound, ∀ outbox, Reachable (drain 100 (taskiqDispatcher sampleBroker)) outbox →
      Sound (taskiqDispatcher sampleBroker) bound outbox := by
  rintro ⟨bound, sound⟩
  have start : Reachable (drain 100 (taskiqDispatcher sampleBroker)) (sampleOutbox 100 101) :=
    ⟨_, [], sampleOutbox_idle 100 101, .nil _⟩
  obtain ⟨later, order, reachable, starved, missed, ahead⟩ := starves (sampleOutbox 100 101) (sampleEntry 100 100) _ start
    (sampleOutbox_starved 100) (bound ((sampleOutbox 100 101).ahead 100) + 1)
  have member : sampleEntry 100 100 ∈ later.rows.rows := (List.mem_filter.mp starved.waiting).1
  have served := (sound later reachable).served _ member rfl
  rw [missed, ahead] at served
  exact absurd served (Nat.not_le.mpr (Nat.lt_of_lt_of_le (Nat.lt_succ_self _) (Nat.le_add_left _ _)))

-- A full batch: one message of the dropped task does not stand in the way of the next, and the last is left out.
def sampleDrain : List OutboxLabel := [.select (sampleOutbox 1 3).rows.rows, .dispatch 0, .dispatch 0, .commit 0 7]

def sampleDrained : Outbox := (drain 2 (taskiqDispatcher sampleBroker)).after (sampleOutbox 1 3) sampleDrain

theorem sampleDrained_sound :
    sampleDrained.returned = [1] ∧ Sound (taskiqDispatcher sampleBroker) id sampleDrained := by
  refine ⟨rfl, @drain_sound 2 _ sampleDrained ⟨_, sampleDrain, sampleOutbox_idle 1 3, ?_⟩⟩
  have served : sampleEntry 1 1 ∈ (sampleOutbox 1 3).rows.rows.take 2 := List.mem_cons_of_mem _ List.mem_cons_self
  exact commits_restrict _ _ _ _
    ⟨⟨List.Perm.refl _, by decide⟩, rfl, trivial, rfl, trivial, rfl, trivial, rfl, trivial⟩
    ⟨.inr ⟨_, served, rfl⟩, trivial, trivial, trivial, trivial⟩

end Yaaos.Tasks
