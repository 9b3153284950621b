import Yaaos.Agent.Frames
import Yaaos.Base.Halting

set_option autoImplicit false

namespace Yaaos.Agent

open Yaaos.Base
open Ipc (newline dropCarriageReturn)

def rawLines : Bytes → List Bytes
  | [] => []
  | byte :: rest =>
      if byte = newline then [] :: rawLines rest
      else match rawLines rest with
        | [] => [[byte]]
        | line :: others => (byte :: line) :: others

def linesOf (stream : Bytes) : List Bytes := (rawLines stream).map dropCarriageReturn

theorem rawLines_line (line rest : Bytes) (plain : newline ∉ line) :
    rawLines (line ++ newline :: rest) = line :: rawLines rest := by
  induction line with
  | nil => exact if_pos rfl
  | cons byte others ih =>
      have other : byte ≠ newline := fun same => plain (by rw [same]; exact List.mem_cons_self)
      rw [List.cons_append, rawLines, if_neg other, ih fun member => plain (List.mem_cons_of_mem _ member)]

theorem rawLines_open (line : Bytes) (plain : newline ∉ line) (filled : line ≠ []) : rawLines line = [line] := by
  induction line with
  | nil => exact absurd rfl filled
  | cons byte others ih =>
      have other : byte ≠ newline := fun same => plain (by rw [same]; exact List.mem_cons_self)
      rw [rawLines, if_neg other]
      cases others with
      | nil => rfl
      | cons second rest => rw [ih (fun member => plain (List.mem_cons_of_mem _ member)) (List.cons_ne_nil _ _)]

theorem rawLines_begun (line rest : Bytes) (plain : newline ∉ line) (filled : line ≠ []) :
    ∃ more others, rawLines (line ++ rest) = (line ++ more) :: others := by
  induction line with
  | nil => exact absurd rfl filled
  | cons byte begun ih =>
      have other : byte ≠ newline := fun same => plain (by rw [same]; exact List.mem_cons_self)
      rw [List.cons_append, rawLines, if_neg other]
      by_cases last : begun = []
      · rw [last, List.nil_append]
        cases rawLines rest with
        | nil => exact ⟨[], [], rfl⟩
        | cons line others => exact ⟨line, others, rfl⟩
      · obtain ⟨more, others, same⟩ := ih (fun member => plain (List.mem_cons_of_mem _ member)) last
        rw [same]
        exact ⟨more, others, rfl⟩

theorem split_newline (data : Bytes) (inside : newline ∈ data) :
    ∃ rest, data = (data.takeWhile fun byte => byte ≠ newline) ++ newline :: rest ∧
      data.drop ((data.takeWhile fun byte => byte ≠ newline).length + 1) = rest ∧
      newline ∉ data.takeWhile fun byte => byte ≠ newline := by
  induction data with
  | nil => cases inside
  | cons byte others ih =>
      by_cases first : byte = newline
      · rw [List.takeWhile_cons_of_neg (by simpa using first), first]
        exact ⟨others, rfl, rfl, List.not_mem_nil⟩
      · rcases List.mem_cons.mp inside with same | later
        · exact absurd same.symm first
        · obtain ⟨rest, whole, left, plain⟩ := ih later
          rw [List.takeWhile_cons_of_pos (by simpa using first)]
          refine ⟨rest, by rw [List.cons_append, ← whole], left, ?_⟩
          intro member
          rcases List.mem_cons.mp member with same | inner
          · exact first same.symm
          · exact plain inner

def streamBufferMax : Nat := 8 * 1024 * 1024

structure Child where
  stream : Bytes
  exitCode : Int

structure PipeSize where
  capacity : Nat
  positive : 0 < capacity

-- A run of a child whose stdout is read by lines: the child and what it has yet to
-- write, the pipe, the scanner with the bytes its buffer holds and the size of that
-- buffer, the lines of the callback, and the exit code once the run has reported.
structure Streaming where
  unwritten : Bytes
  exited : Bool
  pipe : Bytes
  data : Bytes
  size : Nat
  atEOF : Bool
  lines : List Bytes
  stdoutDone : Bool
  reported : Option Int

inductive StreamLabel where
  | writes (count : Nat)
  | exits
  | scans
  | reads (count : Nat)
  | waits

def runStreaming (child : Child) : Streaming where
  unwritten := child.stream
  exited := false
  pipe := []
  data := []
  size := 64 * 1024
  atEOF := false
  lines := []
  stdoutDone := false
  reported := none

def scanLines (data : Bytes) (atEOF : Bool) : Nat × Option Bytes :=
  if atEOF = true ∧ data = [] then (0, none)
  else if newline ∈ data then
    let line := data.takeWhile fun byte => byte ≠ newline
    (line.length + 1, some (dropCarriageReturn line))
  else if atEOF then (data.length, some (dropCarriageReturn data))
  else (0, none)

def Streaming.scan (state : Streaming) : Option Streaming :=
  if state.stdoutDone then none
  else match scanLines state.data state.atEOF with
    | (advance, some token) => some { state with data := state.data.drop advance, lines := state.lines ++ [token] }
    | (_, none) =>
      if state.atEOF then some { state with data := [], stdoutDone := true }
      else if state.data.length = state.size then
        if streamBufferMax ≤ state.size then some { state with stdoutDone := true }
        else
          let doubled := if state.size = 0 then 4096 else state.size * 2
          some { state with size := min doubled streamBufferMax }
      else none

-- A read waits for bytes or for the end of all that could write them.
def Streaming.read (state : Streaming) (count : Nat) : Option Streaming :=
  if state.stdoutDone = true ∨ state.scan.isSome = true then none
  else if state.pipe = [] then
    if state.exited then some { state with atEOF := true } else none
  else if 0 < count ∧ count ≤ state.pipe.length ∧ state.data.length + count ≤ state.size then
    some { state with data := state.data ++ state.pipe.take count, pipe := state.pipe.drop count }
  else none

def Streaming.write (state : Streaming) (pipe : PipeSize) (count : Nat) : Option Streaming :=
  if 0 < count ∧ count ≤ state.unwritten.length ∧ state.pipe.length + count ≤ pipe.capacity then
    some { state with
      unwritten := state.unwritten.drop count
      pipe := state.pipe ++ state.unwritten.take count }
  else none

def Streaming.exit (state : Streaming) : Option Streaming :=
  if state.unwritten = [] ∧ state.exited = false then some { state with exited := true } else none

def Streaming.wait (state : Streaming) (child : Child) : Option Streaming :=
  if state.stdoutDone = true ∧ state.exited = true ∧ state.reported = none then
    some { state with reported := some child.exitCode }
  else none

def streamStep (child : Child) (pipe : PipeSize) (state : Streaming) : StreamLabel → Option Streaming
  | .writes count => state.write pipe count
  | .exits => state.exit
  | .scans => state.scan
  | .reads count => state.read count
  | .waits => state.wait child

def streaming (child : Child) (pipe : PipeSize) : Machine Streaming StreamLabel Unit where
  initial state := state = runStreaming child
  allowed _ _ := True
  step state label := match streamStep child pipe state label with
    | some next => .ok next
    | none => .error ()

def Streaming.captured (state : Streaming) : Bytes := state.lines.flatMap fun line => line ++ [newline]

section Steps

inductive Scans (state : Streaming) : Streaming → Prop where
  | line (rest : Bytes) (token : Bytes) (plain : newline ∉ token) (holds : state.data = token ++ newline :: rest) :
      Scans state { state with data := rest, lines := state.lines ++ [dropCarriageReturn token] }
  | last (plain : newline ∉ state.data) (ended : state.atEOF = true) (filled : state.data ≠ []) :
      Scans state { state with data := [], lines := state.lines ++ [dropCarriageReturn state.data] }
  | stops (ended : state.atEOF = true) (empty : state.data = []) :
      Scans state { state with data := [], stdoutDone := true }
  | tooLong (plain : newline ∉ state.data) (full : state.data.length = state.size) (large : streamBufferMax ≤ state.size) :
      Scans state { state with stdoutDone := true }
  | grows (size : Nat) (full : state.data.length = state.size) (larger : state.size < size) (bounded : size ≤ streamBufferMax) :
      Scans state { state with size := size }

variable (state next : Streaming)

theorem scan_cases (scanned : state.scan = some next) :
    state.stdoutDone = false ∧ Scans state next := by
  unfold Streaming.scan at scanned
  by_cases done : state.stdoutDone = true
  · rw [if_pos done] at scanned
    cases scanned
  · rw [if_neg done] at scanned
    refine ⟨Bool.eq_false_iff.mpr done, ?_⟩
    unfold scanLines at scanned
    by_cases over_ : state.atEOF = true ∧ state.data = []
    · rw [if_pos over_] at scanned
      dsimp only at scanned
      rw [if_pos over_.1] at scanned
      cases scanned
      exact .stops over_.1 over_.2
    · rw [if_neg over_] at scanned
      by_cases inside : newline ∈ state.data
      · rw [if_pos inside] at scanned
        obtain ⟨rest, whole, left, plain⟩ := split_newline state.data inside
        dsimp only at scanned
        rw [left] at scanned
        cases scanned
        exact .line rest _ plain whole
      · rw [if_neg inside] at scanned
        by_cases ended : state.atEOF = true
        · rw [if_pos ended] at scanned
          dsimp only at scanned
          rw [List.drop_length] at scanned
          cases scanned
          exact .last inside ended fun empty => over_ ⟨ended, empty⟩
        · rw [if_neg ended] at scanned
          dsimp only at scanned
          rw [if_neg ended] at scanned
          by_cases full : state.data.length = state.size
          · rw [if_pos full] at scanned
            by_cases large : streamBufferMax ≤ state.size
            · rw [if_pos large] at scanned
              cases scanned
              exact .tooLong inside full large
            · rw [if_neg large] at scanned
              cases scanned
              refine .grows _ full ?_ (Nat.min_le_right _ _)
              have room : state.size < streamBufferMax := Nat.not_le.mp large
              have limit : 4096 ≤ streamBufferMax := by decide
              split
              · omega
              · omega
          · rw [if_neg full] at scanned
            cases scanned

theorem scan_none (state : Streaming) (waits : state.scan = none) (open_ : state.stdoutDone = false) :
    newline ∉ state.data ∧ state.atEOF = false ∧ state.data.length ≠ state.size := by
  unfold Streaming.scan at waits
  rw [if_neg (by rw [open_]; exact Bool.false_ne_true)] at waits
  unfold scanLines at waits
  by_cases over_ : state.atEOF = true ∧ state.data = []
  · rw [if_pos over_] at waits
    dsimp only at waits
    rw [if_pos over_.1] at waits
    cases waits
  · rw [if_neg over_] at waits
    by_cases inside : newline ∈ state.data
    · rw [if_pos inside] at waits
      cases waits
    · rw [if_neg inside] at waits
      by_cases ended : state.atEOF = true
      · rw [if_pos ended] at waits
        cases waits
      · rw [if_neg ended] at waits
        dsimp only at waits
        rw [if_neg ended] at waits
        refine ⟨inside, Bool.eq_false_iff.mpr ended, ?_⟩
        intro full
        rw [if_pos full] at waits
        split at waits
        · cases waits
        · cases waits

theorem read_cases (count : Nat) (read : state.read count = some next) :
    (state.stdoutDone = false ∧ state.scan = none) ∧
      ((state.pipe = [] ∧ state.exited = true ∧ next = { state with atEOF := true }) ∨
        (0 < count ∧ count ≤ state.pipe.length ∧ state.data.length + count ≤ state.size ∧
          next = { state with data := state.data ++ state.pipe.take count, pipe := state.pipe.drop count })) := by
  unfold Streaming.read at read
  by_cases busy : state.stdoutDone = true ∨ state.scan.isSome = true
  · rw [if_pos busy] at read
    cases read
  · obtain ⟨open_, idle⟩ := not_or.mp busy
    refine ⟨⟨Bool.eq_false_iff.mpr open_, Option.not_isSome_iff_eq_none.mp idle⟩, ?_⟩
    rw [if_neg busy] at read
    by_cases empty : state.pipe = []
    · rw [if_pos empty] at read
      by_cases exited : state.exited = true
      · rw [if_pos exited] at read
        cases read
        exact .inl ⟨empty, exited, rfl⟩
      · rw [if_neg exited] at read
        cases read
    · rw [if_neg empty] at read
      by_cases fits : 0 < count ∧ count ≤ state.pipe.length ∧ state.data.length + count ≤ state.size
      · rw [if_pos fits] at read
        cases read
        exact .inr ⟨fits.1, fits.2.1, fits.2.2, rfl⟩
      · rw [if_neg fits] at read
        cases read

theorem write_cases (pipe : PipeSize) (count : Nat) (wrote : state.write pipe count = some next) :
    (0 < count ∧ count ≤ state.unwritten.length) ∧
      next = { state with
        unwritten := state.unwritten.drop count
        pipe := state.pipe ++ state.unwritten.take count } := by
  unfold Streaming.write at wrote
  by_cases fits : 0 < count ∧ count ≤ state.unwritten.length ∧ state.pipe.length + count ≤ pipe.capacity
  · rw [if_pos fits] at wrote
    cases wrote
    exact ⟨⟨fits.1, fits.2.1⟩, rfl⟩
  · rw [if_neg fits] at wrote
    cases wrote

theorem exit_cases (left : state.exit = some next) :
    (state.unwritten = [] ∧ state.exited = false) ∧ next = { state with exited := true } := by
  unfold Streaming.exit at left
  by_cases may : state.unwritten = [] ∧ state.exited = false
  · rw [if_pos may] at left
    cases left
    exact ⟨may, rfl⟩
  · rw [if_neg may] at left
    cases left

theorem wait_cases (child : Child) (waited : state.wait child = some next) :
    (state.stdoutDone = true ∧ state.exited = true ∧ state.reported = none) ∧
      next = { state with reported := some child.exitCode } := by
  unfold Streaming.wait at waited
  by_cases may : state.stdoutDone = true ∧ state.exited = true ∧ state.reported = none
  · rw [if_pos may] at waited
    cases waited
    exact ⟨may, rfl⟩
  · rw [if_neg may] at waited
    cases waited

theorem streaming_step (child : Child) (pipe : PipeSize) (state next : Streaming) (label : StreamLabel)
    (taken : (streaming child pipe).step state label = .ok next) : streamStep child pipe state label = some next := by
  change (match streamStep child pipe state label with
    | some next => Except.ok next
    | none => Except.error ()) = .ok next at taken
  cases step : streamStep child pipe state label with
  | none =>
      rw [step] at taken
      cases taken
  | some other =>
      rw [step] at taken
      cases taken
      rfl

end Steps

section Invariant

def Streaming.rest (state : Streaming) : Bytes := state.data ++ state.pipe ++ state.unwritten

structure Reading (child : Child) (state : Streaming) : Prop where
  told : ∃ front, rawLines child.stream = front ++ rawLines state.rest ∧ state.lines = front.map dropCarriageReturn ∧
    ∀ line ∈ front, line.length < streamBufferMax
  ended : state.atEOF = true → (state.exited = true ∧ state.pipe = []) ∧ state.data.length < streamBufferMax
  written : state.exited = true → state.unwritten = []
  sized : state.data.length ≤ state.size ∧ state.size ≤ streamBufferMax
  stopped : state.stdoutDone = true →
    (state.atEOF = true ∧ state.data = []) ∨ (state.data.length = streamBufferMax ∧ newline ∉ state.data)
  reports : ∀ code, state.reported = some code → code = child.exitCode ∧ state.stdoutDone = true ∧ state.exited = true

variable (child : Child)

theorem reading_start : Reading child (runStreaming child) where
  told := ⟨[], rfl, rfl, fun _ => nofun⟩
  ended := nofun
  written := nofun
  sized := by
    have small : 64 * 1024 ≤ streamBufferMax := by decide
    exact ⟨Nat.zero_le _, small⟩
  stopped := nofun
  reports := nofun

theorem told_concat (front : List Bytes) (line : Bytes) (short : ∀ line ∈ front, line.length < streamBufferMax)
    (fits : line.length < streamBufferMax) : ∀ other ∈ front ++ [line], other.length < streamBufferMax := by
  intro other member
  rcases List.mem_append.mp member with earlier | last
  · exact short other earlier
  · rw [List.mem_singleton.mp last]
    exact fits

variable (state next : Streaming)

theorem reading_scan (reading : Reading child state) (scanned : state.scan = some next) :
    Reading child next := by
  obtain ⟨open_, scans⟩ := scan_cases state next scanned
  obtain ⟨front, whole, lines, short⟩ := reading.told
  have unreported : ∀ code, state.reported ≠ some code := by
    intro code reported
    have done := (reading.reports code reported).2.1
    rw [open_] at done
    cases done
  have notDone : ¬ state.stdoutDone = true := by
    rw [open_]
    exact Bool.false_ne_true
  cases scans with
  | line rest token plain holds =>
      have counted : state.data.length = token.length + (rest.length + 1) := by
        rw [holds, List.length_append, List.length_cons]
      have shorter : rest.length ≤ state.data.length := by omega
      have fits : token.length < streamBufferMax := by
        have held := reading.sized
        omega
      refine { reading with told := ?_, ended := ?_, sized := ?_, stopped := fun done => absurd done notDone }
      · refine ⟨front ++ [token], ?_, by rw [List.map_append, ← lines]; rfl, ?_⟩
        · rw [whole, Streaming.rest, Streaming.rest, holds, List.append_assoc, List.append_assoc, List.append_assoc,
            List.cons_append, rawLines_line token _ plain]
          simp
        · exact told_concat front token short fits
      · exact fun ended => ⟨(reading.ended ended).1, Nat.lt_of_le_of_lt shorter (reading.ended ended).2⟩
      · exact ⟨Nat.le_trans shorter reading.sized.1, reading.sized.2⟩
  | last plain ended filled =>
      obtain ⟨⟨exited, empty⟩, fits⟩ := reading.ended ended
      refine { reading with told := ?_, ended := ?_, sized := ?_, stopped := fun done => absurd done notDone }
      · refine ⟨front ++ [state.data], ?_, by rw [List.map_append, ← lines]; rfl, ?_⟩
        · rw [whole, Streaming.rest, Streaming.rest, empty, reading.written exited, List.append_nil, List.append_nil,
            rawLines_open state.data plain filled]
          simp [rawLines]
        · exact told_concat front state.data short fits
      · exact fun _ => ⟨⟨exited, empty⟩, Nat.lt_of_le_of_lt (Nat.zero_le _) fits⟩
      · exact ⟨Nat.zero_le _, reading.sized.2⟩
  | stops ended empty =>
      obtain ⟨closed, fits⟩ := reading.ended ended
      refine { reading with told := ?_, ended := ?_, sized := ?_, stopped := ?_, reports := ?_ }
      · refine ⟨front, ?_, lines, short⟩
        rw [whole, Streaming.rest, Streaming.rest, empty]
      · exact fun _ => ⟨closed, Nat.lt_of_le_of_lt (Nat.zero_le _) fits⟩
      · exact ⟨Nat.zero_le _, reading.sized.2⟩
      · exact fun _ => .inl ⟨ended, rfl⟩
      · exact fun code reported => absurd reported (unreported code)
  | tooLong plain full large =>
      refine { reading with stopped := ?_, reports := ?_ }
      · have limit := reading.sized.2
        have held : state.data.length = streamBufferMax := by omega
        exact fun _ => .inr ⟨held, plain⟩
      · exact fun code reported => absurd reported (unreported code)
  | grows size full larger bounded =>
      exact { reading with sized := ⟨by rw [full]; exact Nat.le_of_lt larger, bounded⟩ }

theorem reading_read (count : Nat) (reading : Reading child state)
    (read : state.read count = some next) : Reading child next := by
  obtain ⟨⟨open_, waits⟩, ⟨empty, exited, rfl⟩ | ⟨some_, most, fits, rfl⟩⟩ := read_cases state next count read
  · refine { reading with ended := ?_, stopped := ?_ }
    · have room := (scan_none state waits open_).2.2
      have held := reading.sized
      exact fun _ => ⟨⟨exited, empty⟩, by change state.data.length < _; omega⟩
    · intro done
      rw [open_] at done
      cases done
  · refine { reading with told := ?_, ended := ?_, sized := ?_, stopped := ?_ }
    · obtain ⟨front, whole, lines, short⟩ := reading.told
      have same : state.data ++ state.pipe.take count ++ state.pipe.drop count = state.data ++ state.pipe := by
        rw [List.append_assoc, List.take_append_drop]
      refine ⟨front, ?_, lines, short⟩
      change _ = front ++ rawLines (state.data ++ state.pipe.take count ++ state.pipe.drop count ++ state.unwritten)
      rw [whole, same]
      rfl
    · intro ended
      have empty := (reading.ended ended).1.2
      rw [empty, List.length_nil] at most
      omega
    · refine ⟨?_, reading.sized.2⟩
      rw [List.length_append, List.length_take, Nat.min_eq_left most]
      exact fits
    · intro done
      rw [open_] at done
      cases done

theorem reading_write (pipe : PipeSize) (count : Nat) (reading : Reading child state)
    (wrote : state.write pipe count = some next) : Reading child next := by
  obtain ⟨⟨some_, most⟩, rfl⟩ := write_cases state next pipe count wrote
  have living : ¬ state.exited = true := by
    intro exited
    rw [reading.written exited, List.length_nil] at most
    omega
  refine { reading with told := ?_, ended := ?_, written := fun exited => absurd exited living }
  · obtain ⟨front, whole, lines, short⟩ := reading.told
    refine ⟨front, ?_, lines, short⟩
    rw [whole, Streaming.rest, Streaming.rest, List.append_assoc, List.append_assoc, List.append_assoc,
      List.take_append_drop, ← List.append_assoc]
  · exact fun ended => absurd (reading.ended ended).1.1 living

theorem reading_exit (reading : Reading child state) (left : state.exit = some next) :
    Reading child next := by
  obtain ⟨⟨empty, _⟩, rfl⟩ := exit_cases state next left
  refine { reading with ended := ?_, written := fun _ => empty, reports := ?_ }
  · exact fun ended => ⟨⟨rfl, (reading.ended ended).1.2⟩, (reading.ended ended).2⟩
  · intro code reported
    obtain ⟨same, done, _⟩ := reading.reports code reported
    exact ⟨same, done, rfl⟩

theorem reading_wait (reading : Reading child state) (waited : state.wait child = some next) :
    Reading child next := by
  obtain ⟨⟨done, exited, _⟩, rfl⟩ := wait_cases state next child waited
  refine { reading with reports := ?_ }
  intro code reported
  cases reported
  exact ⟨rfl, done, exited⟩

theorem reachable_reading (pipe : PipeSize) (state : Streaming) (reachable : Reachable (streaming child pipe) state) :
    Reading child state := by
  refine reachable_invariant (streaming child pipe) (Reading child) ⟨?_, ?_⟩ state reachable
  · rintro state rfl
    exact reading_start child
  · intro state label next reading _ taken
    have step := streaming_step child pipe state next label taken
    cases label with
    | writes count => exact reading_write child state next pipe count reading step
    | exits => exact reading_exit child state next reading step
    | scans => exact reading_scan child state next reading step
    | reads count => exact reading_read child state next count reading step
    | waits => exact reading_wait child state next reading step

end Invariant

section Running

variable (child : Child) (pipe : PipeSize)

def Streaming.left (state : Streaming) : Nat :=
  3 * state.unwritten.length + 2 * state.pipe.length + state.data.length + (streamBufferMax - state.size) +
    (if state.exited then 0 else 1) + (if state.atEOF then 0 else 1) + (if state.stdoutDone then 0 else 1) +
    (if state.reported.isSome then 0 else 1)

theorem scan_falls (state next : Streaming) (scanned : state.scan = some next) : next.left < state.left := by
  obtain ⟨open_, scans⟩ := scan_cases state next scanned
  cases scans with
  | line rest token plain holds =>
      have shorter : rest.length < state.data.length := by
        rw [holds, List.length_append, List.length_cons]
        omega
      simp only [Streaming.left]
      omega
  | last plain ended filled =>
      have some_ := List.length_pos_iff.mpr filled
      simp only [Streaming.left, List.length_nil]
      omega
  | stops ended empty =>
      simp only [Streaming.left, empty, open_, List.length_nil, if_true, if_neg Bool.false_ne_true]
      omega
  | tooLong plain full large =>
      simp only [Streaming.left, open_, if_true, if_neg Bool.false_ne_true]
      omega
  | grows size full larger bounded =>
      simp only [Streaming.left]
      omega

theorem step_falls (state next : Streaming) (label : StreamLabel) (taken : streamStep child pipe state label = some next) :
    next.left < state.left := by
  cases label with
  | writes count =>
      obtain ⟨⟨some_, most⟩, rfl⟩ := write_cases state next pipe count taken
      simp only [Streaming.left, List.length_append, List.length_take, List.length_drop, Nat.min_eq_left most]
      omega
  | exits =>
      obtain ⟨⟨_, living⟩, rfl⟩ := exit_cases state next taken
      simp only [Streaming.left, living, if_true, if_neg Bool.false_ne_true]
      omega
  | scans => exact scan_falls state next taken
  | reads count =>
      obtain ⟨⟨open_, waits⟩, ⟨empty, _, rfl⟩ | ⟨some_, most, _, rfl⟩⟩ := read_cases state next count taken
      · have notYet := (scan_none state waits open_).2.1
        simp only [Streaming.left, notYet, if_true, if_neg Bool.false_ne_true]
        omega
      · simp only [Streaming.left, List.length_append, List.length_take, List.length_drop, Nat.min_eq_left most]
        omega
  | waits =>
      obtain ⟨⟨_, _, silent⟩, rfl⟩ := wait_cases state next child taken
      simp only [Streaming.left, silent, Option.isSome_some, Option.isSome_none, if_true, if_neg Bool.false_ne_true]
      omega

variable (state : Streaming)

theorem running_step (reading : Reading child state) (silent : state.reported = none)
    (whole : state.stdoutDone = true → state.atEOF = true) : ∃ label next, streamStep child pipe state label = some next := by
  by_cases done : state.stdoutDone = true
  · have exited := (reading.ended (whole done)).1.1
    exact ⟨.waits, _, if_pos ⟨done, exited, silent⟩⟩
  · cases scanned : state.scan with
    | some next => exact ⟨.scans, next, scanned⟩
    | none =>
        obtain ⟨_, _, room⟩ := scan_none state scanned (Bool.eq_false_iff.mpr done)
        have free : ¬ (state.stdoutDone = true ∨ state.scan.isSome = true) := by
          rw [scanned]
          exact not_or.mpr ⟨done, Bool.false_ne_true⟩
        by_cases empty : state.pipe = []
        · by_cases exited : state.exited = true
          · refine ⟨.reads 0, { state with atEOF := true }, ?_⟩
            change state.read 0 = _
            rw [Streaming.read, if_neg free, if_pos empty, if_pos exited]
          · by_cases drained : state.unwritten = []
            · exact ⟨.exits, _, if_pos ⟨drained, Bool.eq_false_iff.mpr exited⟩⟩
            · have some_ := List.length_pos_iff.mpr drained
              refine ⟨.writes 1, _, if_pos ⟨Nat.one_pos, some_, ?_⟩⟩
              rw [empty]
              exact pipe.positive
        · have some_ := List.length_pos_iff.mpr empty
          have most := reading.sized.1
          refine ⟨.reads 1, { state with data := state.data ++ state.pipe.take 1, pipe := state.pipe.drop 1 }, ?_⟩
          change state.read 1 = _
          rw [Streaming.read, if_neg free, if_neg empty, if_pos ⟨Nat.one_pos, some_, by omega⟩]

structure StreamsWhole : Prop where
  ordered : ∀ state, Reachable (streaming child pipe) state → state.lines <+: linesOf child.stream
  complete : ∀ state, Reachable (streaming child pipe) state → ∀ code, state.reported = some code →
    state.lines = linesOf child.stream ∧ state.captured = (linesOf child.stream).flatMap fun line => line ++ [newline]
  unblocked : ∀ state, Reachable (streaming child pipe) state → state.reported = none →
    ∃ label next, (streaming child pipe).step state label = .ok next
  ends : ∀ state, Reachable (streaming child pipe) state →
    ∃ labels last, Path (streaming child pipe) state labels last ∧ last.reported = some child.exitCode

theorem reading_ordered (reading : Reading child state) : state.lines <+: linesOf child.stream := by
  obtain ⟨front, whole, lines, _⟩ := reading.told
  rw [lines, linesOf, whole, List.map_append]
  exact List.prefix_append _ _

theorem stopped_long (reading : Reading child state) (held : state.data.length = streamBufferMax)
    (plain : newline ∉ state.data) :
    (∃ line ∈ rawLines child.stream, streamBufferMax ≤ line.length) ∧ state.lines ≠ linesOf child.stream := by
  have filled : state.data ≠ [] := by
    intro empty
    rw [empty] at held
    exact absurd held (by decide)
  obtain ⟨front, whole, lines, _⟩ := reading.told
  obtain ⟨more, others, begun⟩ := rawLines_begun state.data (state.pipe ++ state.unwritten) plain filled
  rw [← List.append_assoc] at begun
  rw [Streaming.rest, begun] at whole
  refine ⟨⟨state.data ++ more, by rw [whole]; simp, ?_⟩, ?_⟩
  · rw [List.length_append, held]
    exact Nat.le_add_right _ _
  · intro same
    have counted := congrArg List.length same
    rw [lines, linesOf, whole, List.length_map, List.length_map, List.length_append, List.length_cons] at counted
    omega

theorem reading_complete (reading : Reading child state) (exited : state.exited = true)
    (ended : state.atEOF = true ∧ state.data = []) :
    state.lines = linesOf child.stream ∧ ∀ line ∈ rawLines child.stream, line.length < streamBufferMax := by
  obtain ⟨front, whole, lines, short⟩ := reading.told
  have empty : state.rest = [] := by
    rw [Streaming.rest, ended.2, (reading.ended ended.1).1.2, reading.written exited]
    rfl
  rw [empty, rawLines, List.append_nil] at whole
  rw [lines, linesOf, whole]
  exact ⟨rfl, short⟩

theorem streaming_ok (state next : Streaming) (label : StreamLabel) (step : streamStep child pipe state label = some next) :
    (streaming child pipe).step state label = .ok next := by
  change (match streamStep child pipe state label with
    | some next => Except.ok next
    | none => Except.error ()) = .ok next
  rw [step]

theorem streaming_idle :
    ∃ labels last, Path (streaming child pipe) state labels last ∧ (streaming child pipe).Idle last :=
  leads_idle (streaming child pipe) Streaming.left (fun state label next _ taken =>
    step_falls child pipe state next label (streaming_step child pipe state next label taken)) state

theorem streams_short (streams : StreamsWhole child pipe) : ∀ line ∈ rawLines child.stream, line.length < streamBufferMax := by
  obtain ⟨labels, last, path, reported⟩ := streams.ends _ ⟨runStreaming child, [], rfl, .nil _⟩
  have reachable : Reachable (streaming child pipe) last := ⟨runStreaming child, labels, rfl, path⟩
  have reading := reachable_reading child pipe last reachable
  obtain ⟨_, done, exited⟩ := reading.reports _ reported
  rcases reading.stopped done with ended | ⟨held, plain⟩
  · exact (reading_complete child last reading exited ended).2
  · exact absurd (streams.complete last reachable _ reported).1 (stopped_long child last reading held plain).2

-- A child's output is streamed whole exactly where every line of it, with the carriage
-- return it may end with, is shorter than the largest buffer.
theorem streams_whole_iff :
    StreamsWhole child pipe ↔ ∀ line ∈ rawLines child.stream, line.length < streamBufferMax := by
  constructor
  · exact streams_short child pipe
  · intro short
    have whole (state : Streaming) (reading : Reading child state) (done : state.stdoutDone = true) :
        state.atEOF = true ∧ state.data = [] := by
      rcases reading.stopped done with ended | ⟨held, plain⟩
      · exact ended
      · obtain ⟨line, member, long⟩ := (stopped_long child state reading held plain).1
        exact absurd (short line member) (Nat.not_lt.mpr long)
    have steps (state : Streaming) (reachable : Reachable (streaming child pipe) state) (silent : state.reported = none) :
        ∃ label next, (streaming child pipe).step state label = .ok next := by
      have reading := reachable_reading child pipe state reachable
      obtain ⟨label, next, step⟩ := running_step child pipe state reading silent fun done => (whole state reading done).1
      exact ⟨label, next, streaming_ok child pipe state next label step⟩
    refine ⟨fun state reachable => reading_ordered child state (reachable_reading child pipe state reachable), ?_, steps, ?_⟩
    · intro state reachable code reported
      have reading := reachable_reading child pipe state reachable
      obtain ⟨_, done, exited⟩ := reading.reports code reported
      have told := (reading_complete child state reading exited (whole state reading done)).1
      exact ⟨told, by rw [Streaming.captured, told]⟩
    · intro state reachable
      obtain ⟨labels, last, path, idle⟩ := streaming_idle child pipe state
      have later := reachable_path (streaming child pipe) state last labels reachable path
      refine ⟨labels, last, path, ?_⟩
      cases reported : last.reported with
      | none =>
          obtain ⟨label, next, step⟩ := steps last later reported
          exact absurd step (idle label next trivial)
      | some code => rw [((reachable_reading child pipe last later).reports code reported).1]

end Running

theorem long_line_lost :
    ¬ StreamsWhole ⟨List.replicate streamBufferMax 97 ++ [newline], 0⟩ ⟨64 * 1024, by decide⟩ := by
  intro streams
  have plain : newline ∉ List.replicate streamBufferMax (97 : UInt8) :=
    fun member => absurd (List.eq_of_mem_replicate member) (by decide)
  have short := streams_short _ _ streams (List.replicate streamBufferMax 97) (by
    rw [rawLines_line _ [] plain]
    exact List.mem_cons_self)
  rw [List.length_replicate] at short
  exact absurd short (Nat.lt_irrefl _)

end Yaaos.Agent
