import Mathlib.Data.List.Nodup
import Mathlib.Data.List.Perm.Basic
import Yaaos.Base.Machine

set_option autoImplicit false

namespace Yaaos.Agent.Activity

open Yaaos.Base

section Conductor

variable {Event : Type}

inductive Inbound where
  | subscribe (workspace run : String)
  | unsubscribe (workspace : String)
  deriving DecidableEq

def Inbound.workspace : Inbound → String
  | .subscribe workspace _ => workspace
  | .unsubscribe workspace => workspace

structure Published (Event : Type) where
  call : Nat
  workspace : String
  event : Event
  asked : Nat
  deriving DecidableEq

-- What the flush made of the events of one key: a frame of the run that the mapping named, or
-- nothing where it named none.
structure Batch (Event : Type) where
  workspace : String
  events : List (Published Event)
  run : Option String
  told : Nat

-- Between the two locked steps of HandleInbound.
inductive Reader where
  | waiting
  | adding (workspace : String)
  | unmapping (workspace : String)
  deriving DecidableEq

inductive Flusher where
  | waiting
  | draining (last : Bool)
  | returned
  deriving DecidableEq

-- `asking` are the calls of Publish that found their key subscribed and have not appended yet.
-- `buffer` and `pending` hold their events in the order of the appends; the slice of a key are
-- those of its workspace. `log`, `appended`, `swapped` and `stopAt` only tell what happened.
structure State (Event : Type) where
  set : String → Bool
  mapping : String → Option String
  reader : Reader
  calls : Nat
  asking : List (Published Event)
  buffer : List (Published Event)
  pending : List (Published Event)
  flusher : Flusher
  handled : List (Batch Event)
  log : List Inbound
  appended : List (Published Event)
  swapped : Nat
  stopAt : Option Nat

def State.initial : State Event where
  set := fun _ => false
  mapping := fun _ => none
  reader := .waiting
  calls := 0
  asking := []
  buffer := []
  pending := []
  flusher := .waiting
  handled := []
  log := []
  appended := []
  swapped := 0
  stopAt := none

inductive Act (Event : Type) where
  | receive (message : Inbound)
  | readerStep
  | ask (workspace : String) (event : Event)
  | append (index : Nat)
  | tick
  | done
  | flush (workspace : String)
  | drained
  | stop

def ofKey (workspace : String) (entries : List (Published Event)) : List (Published Event) :=
  entries.filter fun entry => entry.workspace = workspace

def apartFrom (workspace : String) (entries : List (Published Event)) : List (Published Event) :=
  entries.filter fun entry => entry.workspace ≠ workspace

def State.handleInbound (state : State Event) : Inbound → State Event
  | .subscribe workspace run => { state with
      mapping := if run ≠ "" then Function.update state.mapping workspace (some run) else state.mapping
      reader := .adding workspace
      log := state.log ++ [.subscribe workspace run] }
  | .unsubscribe workspace => { state with
      set := Function.update state.set workspace false
      reader := .unmapping workspace }

def State.swap (state : State Event) (last : Bool) : State Event := { state with
  pending := state.buffer
  buffer := []
  flusher := .draining last
  swapped := state.appended.length }

def State.flushOne (state : State Event) (workspace : String) : State Event := { state with
  pending := apartFrom workspace state.pending
  handled := state.handled ++ [{
    workspace := workspace, events := ofKey workspace state.pending, run := state.mapping workspace,
    told := state.log.length }] }

def step (state : State Event) : Act Event → Except Unit (State Event)
  | .receive message => if state.reader = .waiting then .ok (state.handleInbound message) else .error ()
  | .readerStep => match state.reader with
      | .waiting => .error ()
      | .adding workspace =>
          .ok { state with set := Function.update state.set workspace true, reader := .waiting }
      | .unmapping workspace => .ok { state with
          mapping := Function.update state.mapping workspace none
          reader := .waiting
          log := state.log ++ [.unsubscribe workspace] }
  | .ask workspace event => .ok { state with
      calls := state.calls + 1
      asking := if state.set workspace then
          state.asking ++ [{ call := state.calls, workspace := workspace, event := event, asked := state.log.length }]
        else state.asking }
  | .append index => match state.asking[index]? with
      | none => .error ()
      | some entry => .ok { state with
          asking := state.asking.eraseIdx index
          buffer := state.buffer ++ [entry]
          appended := state.appended ++ [entry] }
  | .tick => if state.flusher = .waiting then .ok (state.swap false) else .error ()
  | .done => if state.flusher = .waiting ∧ state.stopAt.isSome then .ok (state.swap true) else .error ()
  | .flush workspace => match state.flusher with
      | .draining _ => if ofKey workspace state.pending = [] then .error () else .ok (state.flushOne workspace)
      | _ => .error ()
  | .drained => match state.flusher with
      | .draining last =>
          if state.pending = [] then .ok { state with flusher := if last then .returned else .waiting } else .error ()
      | _ => .error ()
  | .stop => match state.stopAt with
      | some _ => .ok state
      | none => .ok { state with stopAt := some state.appended.length }

inductive Taken (state : State Event) : State Event → Prop where
  | received (message : Inbound) (free : state.reader = .waiting) : Taken state (state.handleInbound message)
  | added (workspace : String) (reads : state.reader = .adding workspace) :
      Taken state { state with set := Function.update state.set workspace true, reader := .waiting }
  | unmapped (workspace : String) (reads : state.reader = .unmapping workspace) :
      Taken state { state with
        mapping := Function.update state.mapping workspace none
        reader := .waiting
        log := state.log ++ [.unsubscribe workspace] }
  | asked (workspace : String) (event : Event) (found : state.set workspace = true) :
      Taken state { state with
        calls := state.calls + 1
        asking := state.asking ++
          [{ call := state.calls, workspace := workspace, event := event, asked := state.log.length }] }
  | dropped : Taken state { state with calls := state.calls + 1 }
  | appended (index : Nat) (entry : Published Event) (asks : state.asking[index]? = some entry) :
      Taken state { state with
        asking := state.asking.eraseIdx index
        buffer := state.buffer ++ [entry]
        appended := state.appended ++ [entry] }
  | swapped (last : Bool) (free : state.flusher = .waiting) (called : last = true → state.stopAt.isSome) :
      Taken state (state.swap last)
  | flushed (workspace : String) (last : Bool) (drains : state.flusher = .draining last) :
      Taken state (state.flushOne workspace)
  | drained (last : Bool) (drains : state.flusher = .draining last) (empty : state.pending = []) :
      Taken state { state with flusher := if last then .returned else .waiting }
  | stopped (first : state.stopAt = none) : Taken state { state with stopAt := some state.appended.length }
  | again : Taken state state

def conductor : Machine (State Event) (Act Event) Unit where
  initial state := state = .initial
  allowed _ _ := True
  step := step

end Conductor

variable (workspace : String) (log : List Inbound) (message : Inbound)

def tell (workspace : String) (current : Option String) : Inbound → Option String
  | .subscribe named run => if named = workspace ∧ run ≠ "" then some run else current
  | .unsubscribe named => if named = workspace then none else current

def latestRun (workspace : String) (log : List Inbound) : Option String := log.foldl (tell workspace) none

def turn (workspace : String) (current : Bool) : Inbound → Bool
  | .subscribe named _ => if named = workspace then true else current
  | .unsubscribe named => if named = workspace then false else current

def isSubscribed (workspace : String) (log : List Inbound) : Bool := log.foldl (turn workspace) false

def between (log : List Inbound) (early late : Nat) : List Inbound := (log.take late).drop early

section Invariants

variable {Event : Type} {state next : State Event}

structure Heard (state : State Event) : Prop where
  mapping : ∀ workspace, state.mapping workspace = latestRun workspace state.log
  set : ∀ workspace, state.set workspace = true → isSubscribed workspace state.log = true
  adding : ∀ workspace, state.reader = .adding workspace → isSubscribed workspace state.log = true
  unmapping : ∀ workspace, state.reader = .unmapping workspace → state.set workspace = false

def State.handledOf (state : State Event) (workspace : String) : List (Published Event) :=
  (state.handled.filter fun batch => batch.workspace = workspace).flatMap Batch.events

structure Conserved (state : State Event) : Prop where
  whole : (state.handled.flatMap Batch.events ++ (state.pending ++ state.buffer)).Perm state.appended
  ordered : ∀ workspace, ofKey workspace state.appended =
    state.handledOf workspace ++ (ofKey workspace state.pending ++ ofKey workspace state.buffer)
  buffered : state.buffer = state.appended.drop state.swapped
  bounded : state.swapped ≤ state.appended.length
  idle : (∀ last, state.flusher ≠ .draining last) → state.pending = []

def Published.Asked (entry : Published Event) (log : List Inbound) : Prop :=
  entry.asked ≤ log.length ∧ isSubscribed entry.workspace (log.take entry.asked) = true

structure Batch.Told (batch : Batch Event) (log : List Inbound) : Prop where
  bounded : batch.told ≤ log.length
  run : batch.run = latestRun batch.workspace (log.take batch.told)
  events : ∀ entry ∈ batch.events, entry.workspace = batch.workspace ∧ entry.asked ≤ batch.told ∧ entry.Asked log

structure Noted (state : State Event) : Prop where
  asking : ∀ entry ∈ state.asking, entry.Asked state.log
  pending : ∀ entry ∈ state.pending, entry.Asked state.log
  buffer : ∀ entry ∈ state.buffer, entry.Asked state.log
  batches : ∀ batch ∈ state.handled, batch.Told state.log

structure Numbered (state : State Event) : Prop where
  apart : ((state.asking ++ state.appended).map Published.call).Nodup
  fresh : ∀ entry ∈ state.asking ++ state.appended, entry.call < state.calls

structure Stopping (state : State Event) : Prop where
  bounded : ∀ count, state.stopAt = some count → count ≤ state.appended.length
  called : state.flusher = .draining true ∨ state.flusher = .returned → state.stopAt.isSome = true
  swapped : state.flusher = .draining true ∨ state.flusher = .returned →
    ∀ count, state.stopAt = some count → count ≤ state.swapped

end Invariants

section Delivery

variable {Event : Type} {state : State Event}

structure State.Inv (state : State Event) : Prop where
  heard : Heard state
  conserved : Conserved state
  noted : Noted state
  numbered : Numbered state
  stopping : Stopping state

theorem initial_inv : (State.initial : State Event).Inv where
  heard := by
    refine ⟨fun _ => rfl, ?_, ?_, ?_⟩ <;> simp [State.initial]
  conserved := by
    refine ⟨?_, ?_, ?_, ?_, ?_⟩ <;> simp [State.initial, State.handledOf, ofKey]
  noted := by
    refine ⟨?_, ?_, ?_, ?_⟩ <;> simp [State.initial]
  numbered := by
    refine ⟨?_, ?_⟩ <;> simp [State.initial]
  stopping := by
    refine ⟨?_, ?_, ?_⟩ <;> simp [State.initial]

instance (state : State Unit) (act : Act Unit) : Decidable (conductor.allowed state act) := isTrue trivial

end Delivery

end Yaaos.Agent.Activity
