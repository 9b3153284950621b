import Yaaos.Base.JsonText

set_option autoImplicit false

namespace Yaaos.Agent.Ipc

open Yaaos.Base

def ascii (text : String) : Bytes := encodeChars text.toList

-- `reported_at` is held as the text it is sent as, and a map by its keys in order.
structure AgentEvent where
  commandId : Bytes
  kind : Bytes
  outcomeLabel : Bytes
  outputs : List (String × JsonValue)
  failureReason : Bytes
  attempt : Int
  reportedAt : Bytes
  traceparent : Bytes
  completionToken : Bytes
  artifact : Option Bytes
  artifactError : Bytes

def eventProgress : Bytes := ascii "progress"

def eventCompletedSuccess : Bytes := ascii "completed_success"

def eventCompletedFailure : Bytes := ascii "completed_failure"

def omitEmpty (key : String) (bytes : Bytes) : List (String × JsonValue) :=
  if bytes = [] then [] else [(key, .text bytes)]

def AgentEvent.fields (event : AgentEvent) : List (String × JsonValue) :=
  [("command_id", .text event.commandId), ("kind", .text event.kind)] ++
    omitEmpty "outcome_label" event.outcomeLabel ++
    (if event.outputs = [] then [] else [("outputs", .object event.outputs)]) ++
    omitEmpty "failure_reason" event.failureReason ++
    (if event.attempt = 0 then [] else [("attempt", .int event.attempt)]) ++
    [("reported_at", .text event.reportedAt), ("traceparent", .text event.traceparent)] ++
    omitEmpty "completion_token" event.completionToken ++
    (match event.artifact with
      | none => []
      | some body => [("artifact", .object [("body", .text body)])]) ++
    omitEmpty "artifact_error" event.artifactError

def AgentEvent.json (event : AgentEvent) : JsonValue := .object event.fields

def marshal (event : AgentEvent) : Bytes := encodeChars event.json.chars

def textField (fields : List (String × JsonValue)) (key : String) : Option Bytes :=
  match fields.lookup key with
  | none => some []
  | some (.text bytes) => some bytes
  | some _ => none

def intField (fields : List (String × JsonValue)) (key : String) : Option Int :=
  match fields.lookup key with
  | none => some 0
  | some (.int value) => some value
  | some _ => none

def objectField (fields : List (String × JsonValue)) (key : String) : Option (List (String × JsonValue)) :=
  match fields.lookup key with
  | none => some []
  | some (.object inner) => some inner
  | some _ => none

def artifactField (fields : List (String × JsonValue)) : Option (Option Bytes) :=
  match fields.lookup "artifact" with
  | none => some none
  | some (.object inner) => (textField inner "body").map some
  | some _ => none

def AgentEvent.ofFields (fields : List (String × JsonValue)) : Option AgentEvent := do
  some {
    commandId := ← textField fields "command_id", kind := ← textField fields "kind"
    outcomeLabel := ← textField fields "outcome_label", outputs := ← objectField fields "outputs"
    failureReason := ← textField fields "failure_reason", attempt := ← intField fields "attempt"
    reportedAt := ← textField fields "reported_at", traceparent := ← textField fields "traceparent"
    completionToken := ← textField fields "completion_token", artifact := ← artifactField fields
    artifactError := ← textField fields "artifact_error" }

def AgentEvent.ofJson : JsonValue → Option AgentEvent
  | .object fields => AgentEvent.ofFields fields
  | _ => none

-- Bytes that are no UTF-8 become replacement characters.
def unmarshal (bytes : Bytes) : Option AgentEvent :=
  (parseJson ((runes bytes).map repaired)).bind AgentEvent.ofJson

def AgentEvent.sanitized (event : AgentEvent) : AgentEvent := {
  commandId := sanitize event.commandId, kind := sanitize event.kind, outcomeLabel := sanitize event.outcomeLabel
  outputs := sanitizedFields event.outputs, failureReason := sanitize event.failureReason, attempt := event.attempt
  reportedAt := sanitize event.reportedAt, traceparent := sanitize event.traceparent
  completionToken := sanitize event.completionToken, artifact := event.artifact.map sanitize
  artifactError := sanitize event.artifactError }

def maxTokenSize : Nat := 8 * 1024 * 1024

def newline : UInt8 := 10

def frame (event : AgentEvent) : Bytes := marshal event ++ [newline]

-- `held` is what the buffer of a scanner still holds that found no newline in it.
structure Decoder where
  unread : Bytes
  held : Option Bytes

inductive ReadError where
  | closed
  | tooLong
  | malformed
  deriving DecidableEq

def ReadError.text : ReadError → String
  | .closed => "ipc: stream closed"
  | .tooLong => "ipc: scan: bufio.Scanner: token too long"
  | .malformed => "ipc: unmarshal"

def dropCarriageReturn (line : Bytes) : Bytes := if line.getLast? = some 13 then line.dropLast else line

-- The buffer never holds more than `maxTokenSize` bytes.
def Decoder.scan (decoder : Decoder) : Option Bytes × Decoder :=
  match decoder.held with
  | some [] => (none, decoder)
  | some (byte :: rest) => (some (dropCarriageReturn (byte :: rest)), { decoder with held := some [] })
  | none =>
    let buffer := decoder.unread.take maxTokenSize
    if newline ∈ buffer then
      let line := buffer.takeWhile fun byte => byte ≠ newline
      (some (dropCarriageReturn line), { decoder with unread := decoder.unread.drop (line.length + 1) })
    else if maxTokenSize ≤ decoder.unread.length then
      (none, { unread := decoder.unread.drop maxTokenSize, held := some buffer })
    else if decoder.unread = [] then (none, decoder)
    else (some (dropCarriageReturn decoder.unread), { decoder with unread := [] })

def Decoder.read (decoder : Decoder) : Except ReadError AgentEvent × Decoder :=
  match decoder.scan with
  | (none, next) => (.error (if next.held.isSome then .tooLong else .closed), next)
  | (some line, next) =>
    if line = [] then (.error .closed, next)
    else
      match unmarshal line with
      | none => (.error .malformed, next)
      | some event => (.ok event, next)

def Decoder.readMany : Nat → Decoder → List (Except ReadError AgentEvent)
  | 0, _ => []
  | count + 1, decoder => decoder.read.1 :: Decoder.readMany count decoder.read.2

def Decoder.open (bytes : Bytes) : Decoder := { unread := bytes, held := none }

structure CommandHeader where
  commandId : Bytes
  traceparent : Bytes
  completionToken : Bytes

structure ExecResult where
  exitCode : Int
  stdout : Bytes
  stderr : Bytes
  durationMs : Int

inductive Result where
  | provision (workspaceId path repo headSha branch : Bytes) (reused : Bool)
  | writeFiles (workspaceId : Bytes) (filesCount : Int)
  | refresh (workspaceId : Bytes) (refreshed : Bool)
  | invoke (workspaceId : Bytes) (exec : ExecResult) (artifact : Option Bytes) (artifactError : Bytes)
  | cleanup (workspaceId : Bytes) (destroyed : Bool) (path reason : Bytes)
  | pushBranch (workspaceId : Bytes) (pushed : Bool)

def excerptBytes : Nat := 16 * 1024

def stdoutExcerpt (stdout : Bytes) : Bytes :=
  if stdout.length > excerptBytes then stdout.take excerptBytes ++ ascii "...[truncated]" else stdout

def Result.toWire : Result → List (String × JsonValue)
  | .provision workspaceId path repo headSha branch reused => [
    ("branch", .text branch), ("head_sha", .text headSha), ("path", .text path), ("repo", .text repo),
    ("reused", .bool reused), ("workspace_id", .text workspaceId)]
  | .writeFiles workspaceId filesCount => [("files_count", .int filesCount), ("workspace_id", .text workspaceId)]
  | .refresh workspaceId refreshed => [("refreshed", .bool refreshed), ("workspace_id", .text workspaceId)]
  | .invoke workspaceId exec _ _ => [
    ("duration_ms", .int exec.durationMs), ("exit_code", .int exec.exitCode), ("stderr", .text exec.stderr),
    ("stdout", .text exec.stdout), ("stdout_excerpt", .text (stdoutExcerpt exec.stdout)),
    ("workspace_id", .text workspaceId)]
  | .cleanup workspaceId destroyed path reason =>
    [("destroyed", .bool destroyed), ("path", .text path)] ++ omitEmpty "reason" reason ++
      [("workspace_id", .text workspaceId)]
  | .pushBranch workspaceId pushed => [("pushed", .bool pushed), ("workspace_id", .text workspaceId)]

def Result.artifactPayload : Result → Option Bytes × Bytes
  | .invoke _ _ artifact artifactError => (artifact, artifactError)
  | _ => (none, [])

-- What a handler emitted, each with its time, and what it returned.
structure Handled where
  progress : List (Bytes × List (String × JsonValue))
  result : Result
  error : Option Bytes

structure CommandRun where
  header : CommandHeader
  traceparent : Bytes
  now : Bytes
  handled : Handled

def CommandRun.progressEvents (run : CommandRun) : List AgentEvent :=
  run.handled.progress.map fun emitted => {
    commandId := run.header.commandId, kind := eventProgress, outcomeLabel := [], outputs := emitted.2
    failureReason := [], attempt := 0, reportedAt := emitted.1, traceparent := run.traceparent
    completionToken := run.header.completionToken, artifact := none, artifactError := [] }

def CommandRun.executeCommand (run : CommandRun) : AgentEvent :=
  let payload := run.handled.result.artifactPayload
  let base : AgentEvent := {
    commandId := run.header.commandId, kind := [], outcomeLabel := [], outputs := [], failureReason := [], attempt := 0
    reportedAt := run.now, traceparent := if run.traceparent = [] then run.header.traceparent else run.traceparent
    completionToken := run.header.completionToken, artifact := payload.1, artifactError := payload.2 }
  match run.handled.error with
  | some reason => { base with kind := eventCompletedFailure, failureReason := reason }
  | none => { base with kind := eventCompletedSuccess, outputs := run.handled.result.toWire }

def CommandRun.events (run : CommandRun) : List AgentEvent := run.progressEvents ++ [run.executeCommand]

-- What a coding agent's subprocess did. `lines` is its stdout, each line with the
-- time it came at, and `artifact` the file it left, or why that cannot be read.
structure ProgramRun where
  lines : List (Bytes × Bytes)
  stderr : Bytes
  exitCode : Int
  durationMs : Int
  failure : Option Bytes
  artifact : Except Bytes (Option Bytes)
  pushError : Option Bytes

def maxStderrBytes : Nat := 1024 * 1024

def errStderrCap : Nat := 2048

def errStdoutTailCap : Nat := 4096

def artifactMaxBytes : Nat := 2 * 1024 * 1024

def excerptHead (bytes : Bytes) (limit : Nat) : Bytes :=
  if bytes = [] then ascii "<empty>"
  else if bytes.length ≤ limit then bytes
  else bytes.take limit ++ ascii "...[truncated tail]"

def excerptTail (bytes : Bytes) (limit : Nat) : Bytes :=
  if bytes = [] then ascii "<empty>"
  else if bytes.length ≤ limit then bytes
  else ascii "...[truncated head]" ++ bytes.drop (bytes.length - limit)

def readArtifact : Except Bytes (Option Bytes) → Option Bytes × Bytes
  | .error reason => (none, reason)
  | .ok none => (none, [])
  | .ok (some body) =>
    if body.length > artifactMaxBytes then (none, ascii "artifact exceeds 2097152 bytes") else (some body, [])

def ProgramRun.stdout (run : ProgramRun) : Bytes := run.lines.flatMap fun line => line.2 ++ [newline]

def ProgramRun.capturedStderr (run : ProgramRun) : Bytes := run.stderr.take maxStderrBytes

def ProgramRun.error (program : String) (run : ProgramRun) : Option Bytes :=
  match run.failure with
  | some reason => some (ascii (program ++ " subprocess: ") ++ reason)
  | none =>
    if run.exitCode ≠ 0 then
      some (ascii program ++ ascii " exit " ++ encodeChars (intChars run.exitCode) ++ ascii ": stderr=" ++
        excerptHead run.capturedStderr errStderrCap ++ ascii " stdout_tail=" ++ excerptTail run.stdout errStdoutTailCap)
    else run.pushError.map fun reason => ascii "git push: " ++ reason

def runProgram (program : String) (workspaceId : Bytes) (run : ProgramRun) : Handled :=
  let payload := readArtifact run.artifact
  let exec : ExecResult := match run.error program with
    | some _ => { exitCode := 0, stdout := [], stderr := [], durationMs := 0 }
    | none => {
      exitCode := run.exitCode, stdout := run.stdout, stderr := run.capturedStderr, durationMs := run.durationMs }
  { progress := run.lines.map fun line =>
      (line.1, [("stream_line", .text line.2), ("workspace_id", .text workspaceId)])
    result := .invoke workspaceId exec payload.1 payload.2, error := run.error program }

-- One runner: its decoder, and whether a Send on it failed. A runner gets no
-- command after its cleanup, so the cleanup is no case of its own.
structure Runner where
  decoder : Decoder
  closed : Bool

def Runner.fresh : Runner := { decoder := .open [], closed := false }

def failureEvent (header : CommandHeader) (now : Bytes) (reason : Bytes) : AgentEvent := {
  commandId := header.commandId, kind := eventCompletedFailure, outcomeLabel := [], outputs := []
  failureReason := reason, attempt := 0, reportedAt := now, traceparent := header.traceparent
  completionToken := header.completionToken, artifact := none, artifactError := [] }

def Decoder.send : Nat → Decoder → List AgentEvent × Except ReadError AgentEvent × Decoder
  | 0, decoder => ([], .error .closed, decoder)
  | fuel + 1, decoder =>
    match decoder.read with
    | (.error error, next) => ([], .error error, next)
    | (.ok event, next) =>
      if event.kind = eventProgress then
        let more := Decoder.send fuel next
        (event :: more.1, more.2)
      else ([], .ok event, next)

def Decoder.feed (decoder : Decoder) (bytes : Bytes) : Decoder := { decoder with unread := decoder.unread ++ bytes }

structure Answer where
  progress : List AgentEvent
  event : AgentEvent

def CommandRun.written (run : CommandRun) : Bytes := run.events.flatMap frame

def dispatch (runner : Runner) (run : CommandRun) : Answer × Runner :=
  if runner.closed then
    ({ progress := [], event := failureEvent run.header run.now (ascii "no workspace runner") }, runner)
  else
    let fed := runner.decoder.feed run.written
    let sent := fed.send (fed.unread.length + 1)
    match sent.2.1 with
    | .ok event => ({ progress := sent.1, event := event }, { decoder := sent.2.2, closed := false })
    | .error error =>
      ({ progress := sent.1, event := failureEvent run.header run.now (ascii ("runner: read event: " ++ error.text)) },
        { decoder := sent.2.2, closed := true })

def serve : Runner → List CommandRun → List Answer
  | _, [] => []
  | runner, run :: rest => (dispatch runner run).1 :: serve (dispatch runner run).2 rest

structure Survives (runs : List CommandRun) : Prop where
  decoded : Decoder.readMany ((runs.flatMap CommandRun.events).length + 1)
      (.open (runs.flatMap CommandRun.written)) =
    (runs.flatMap CommandRun.events).map .ok ++ [.error .closed]
  answered : serve .fresh runs = runs.map fun run => { progress := run.progressEvents, event := run.executeCommand }

-- Every string is UTF-8, and the text is short enough for the buffer of the scanner.
structure AgentEvent.Fits (event : AgentEvent) : Prop where
  valid : event.json.Valid
  short : (marshal event).length < maxTokenSize

variable (event : AgentEvent) (count : Nat) (fields : List (String × JsonValue)) (rest : Bytes)

@[simp] theorem lookup_omitEmpty (key other : String) (bytes : Bytes) :
    (omitEmpty key bytes).lookup other = if other = key ∧ bytes ≠ [] then some (.text bytes) else none := by
  rw [omitEmpty]
  by_cases empty : bytes = []
  · rw [if_pos empty, if_neg fun both => both.2 empty]
    rfl
  · rw [if_neg empty, List.lookup_cons]
    by_cases same : other = key
    · rw [if_pos ⟨same, empty⟩, same, beq_self_eq_true]
    · rw [if_neg fun both => same both.1, beq_eq_false_iff_ne.mpr same]
      rfl

@[simp] theorem lookup_unless (absent : Prop) [Decidable absent] (key other : String) (value : JsonValue) :
    (if absent then [] else [(key, value)]).lookup other = if other = key ∧ ¬ absent then some value else none := by
  by_cases missing : absent
  · rw [if_pos missing, if_neg fun both => both.2 missing]
    rfl
  · rw [if_neg missing, List.lookup_cons]
    by_cases same : other = key
    · rw [if_pos ⟨same, missing⟩, same, beq_self_eq_true]
    · rw [if_neg fun both => same both.1, beq_eq_false_iff_ne.mpr same]
      rfl

@[simp] theorem lookup_artifact (artifact : Option Bytes) (other : String) :
    (match artifact with
      | none => []
      | some body => [("artifact", JsonValue.object [("body", .text body)])]).lookup other =
      if other = "artifact" then artifact.map fun body => .object [("body", .text body)] else none := by
  cases artifact with
  | none => rw [Option.map_none, ite_self]; rfl
  | some body =>
      rw [List.lookup_cons, Option.map_some]
      by_cases same : other = "artifact"
      · rw [if_pos same, same, beq_self_eq_true]
      · rw [if_neg same, beq_eq_false_iff_ne.mpr same]
        rfl

theorem textField_omitted (key : String) (bytes : Bytes)
    (written : fields.lookup key = if bytes ≠ [] then some (.text bytes) else none) :
    textField fields key = some bytes := by
  rw [textField, written]
  by_cases empty : bytes = []
  · rw [if_neg (not_not_intro empty), empty]
  · rw [if_pos empty]

theorem textField_written (key : String) (bytes : Bytes)
    (written : fields.lookup key = some (.text bytes)) : textField fields key = some bytes := by
  rw [textField, written]

theorem ofFields_fields : AgentEvent.ofFields event.fields = some event := by
  have commandId : textField event.fields "command_id" = some event.commandId :=
    textField_written _ _ _ (by simp [AgentEvent.fields])
  have kind : textField event.fields "kind" = some event.kind :=
    textField_written _ _ _ (by simp [AgentEvent.fields, List.lookup_cons])
  have outcomeLabel : textField event.fields "outcome_label" = some event.outcomeLabel :=
    textField_omitted _ _ _ (by simp [AgentEvent.fields, List.lookup_append, List.lookup_cons])
  have failureReason : textField event.fields "failure_reason" = some event.failureReason :=
    textField_omitted _ _ _ (by simp [AgentEvent.fields, List.lookup_append, List.lookup_cons])
  have reportedAt : textField event.fields "reported_at" = some event.reportedAt :=
    textField_written _ _ _ (by simp [AgentEvent.fields, List.lookup_append, List.lookup_cons])
  have traceparent : textField event.fields "traceparent" = some event.traceparent :=
    textField_written _ _ _ (by simp [AgentEvent.fields, List.lookup_append, List.lookup_cons])
  have completionToken : textField event.fields "completion_token" = some event.completionToken :=
    textField_omitted _ _ _ (by simp [AgentEvent.fields, List.lookup_append, List.lookup_cons])
  have artifactError : textField event.fields "artifact_error" = some event.artifactError :=
    textField_omitted _ _ _ (by simp [AgentEvent.fields, List.lookup_append, List.lookup_cons])
  have outputs : objectField event.fields "outputs" = some event.outputs := by
    have written : event.fields.lookup "outputs" = if event.outputs ≠ [] then some (.object event.outputs) else none := by
      simp [AgentEvent.fields, List.lookup_append, List.lookup_cons]
    rw [objectField, written]
    by_cases empty : event.outputs = []
    · rw [if_neg (not_not_intro empty), empty]
    · rw [if_pos empty]
  have attempt : intField event.fields "attempt" = some event.attempt := by
    have written : event.fields.lookup "attempt" = if event.attempt ≠ 0 then some (.int event.attempt) else none := by
      simp [AgentEvent.fields, List.lookup_append, List.lookup_cons]
    rw [intField, written]
    by_cases zero : event.attempt = 0
    · rw [if_neg (not_not_intro zero), zero]
    · rw [if_pos zero]
  have artifact : artifactField event.fields = some event.artifact := by
    have written : event.fields.lookup "artifact" = event.artifact.map fun body => .object [("body", .text body)] := by
      simp [AgentEvent.fields, List.lookup_append, List.lookup_cons]
    rw [artifactField, written]
    cases event.artifact with
    | none => rfl
    | some body => simp [textField]
  simp only [AgentEvent.ofFields, commandId, kind, outcomeLabel, failureReason, reportedAt, traceparent, completionToken,
    artifactError, outputs, attempt, artifact, Option.bind_eq_bind, Option.bind_some]

theorem sanitized_omitEmpty (key : String) (bytes : Bytes) :
    sanitizedFields (omitEmpty key bytes) = omitEmpty key (sanitize bytes) := by
  rw [omitEmpty, omitEmpty, apply_ite sanitizedFields]
  simp only [sanitize_eq_nil, sanitizedFields, JsonValue.sanitized]

theorem sanitizedFields_append (left right : List (String × JsonValue)) :
    sanitizedFields (left ++ right) = sanitizedFields left ++ sanitizedFields right := by
  rw [sanitizedFields_map, sanitizedFields_map, sanitizedFields_map, List.map_append]

theorem sanitizedFields_eq_nil : sanitizedFields fields = [] ↔ fields = [] := by
  rw [sanitizedFields_map, List.map_eq_nil_iff]

theorem sanitized_json : event.json.sanitized = event.sanitized.json := by
  obtain ⟨commandId, kind, outcomeLabel, outputs, failureReason, attempt, reportedAt, traceparent, completionToken, artifact,
    artifactError⟩ := event
  have outer : sanitizedFields (if outputs = [] then [] else [("outputs", .object outputs)]) =
      if sanitizedFields outputs = [] then [] else [("outputs", .object (sanitizedFields outputs))] := by
    rw [apply_ite sanitizedFields]
    simp only [sanitizedFields_eq_nil, sanitizedFields, JsonValue.sanitized]
  have counted : sanitizedFields (if attempt = 0 then [] else [("attempt", .int attempt)]) =
      if attempt = 0 then [] else [("attempt", .int attempt)] := by
    rw [apply_ite sanitizedFields]
    simp only [sanitizedFields, JsonValue.sanitized]
  simp only [AgentEvent.json, JsonValue.sanitized, AgentEvent.fields, AgentEvent.sanitized, sanitizedFields_append,
    sanitized_omitEmpty, outer, counted]
  cases artifact <;> rfl

theorem unmarshal_marshal : unmarshal (marshal event) = some event.sanitized := by
  rw [unmarshal, marshal, runes_encoded, repaired_some, parseJson_chars, sanitized_json]
  exact ofFields_fields event.sanitized

theorem unmarshal_iff : unmarshal (marshal event) = some event ↔ event.json.Valid := by
  rw [unmarshal_marshal, Option.some.injEq, ← sanitized_iff, sanitized_json]
  refine ⟨fun same => by rw [same], fun same => ?_⟩
  have fields : event.sanitized.fields = event.fields := by
    rw [AgentEvent.json, AgentEvent.json, JsonValue.object.injEq] at same
    exact same
  have read := ofFields_fields event.sanitized
  rw [fields, ofFields_fields event] at read
  exact (Option.some.inj read).symm

theorem marshal_line : newline ∉ marshal event := encodeChars_line _ (chars_plain event.json)

theorem marshal_closes : ∃ body, marshal event = body ++ [125] := by
  refine ⟨encodeChars ('{' :: fieldChars event.fields), ?_⟩
  rw [marshal, AgentEvent.json, JsonValue.chars, ← List.cons_append, encodeChars_append]
  rfl

theorem marshal_kept : dropCarriageReturn (marshal event) = marshal event := by
  obtain ⟨body, same⟩ := marshal_closes event
  rw [same, dropCarriageReturn, List.getLast?_concat]
  rfl

theorem takeWhile_line (line rest : Bytes) (plain : newline ∉ line) :
    (line ++ newline :: rest).takeWhile (fun byte => byte ≠ newline) = line := by
  rw [List.takeWhile_append_of_pos]
  · simp
  · intro byte member
    exact decide_eq_true fun same => plain (same ▸ member)

theorem scan_frame (short : (marshal event).length < maxTokenSize) :
    (Decoder.open (frame event ++ rest)).scan = (some (marshal event), .open rest) := by
  obtain ⟨room, split⟩ := Nat.exists_eq_add_of_le (Nat.succ_le_of_lt short)
  have buffer : (frame event ++ rest).take maxTokenSize = marshal event ++ newline :: rest.take room := by
    rw [split, frame, List.append_assoc, List.singleton_append, List.take_append, List.take_of_length_le (by omega)]
    congr 1
    rw [show (marshal event).length.succ + room - (marshal event).length = room + 1 by omega, List.take_succ_cons]
  have inside : newline ∈ (frame event ++ rest).take maxTokenSize := by
    rw [buffer]
    exact List.mem_append_right _ List.mem_cons_self
  have line : ((frame event ++ rest).take maxTokenSize).takeWhile (fun byte => byte ≠ newline) = marshal event := by
    rw [buffer]
    exact takeWhile_line _ _ (marshal_line event)
  have dropped : (frame event ++ rest).drop ((marshal event).length + 1) = rest := by
    rw [frame, List.append_assoc, List.singleton_append, List.drop_append, List.drop_of_length_le (by omega)]
    rw [show (marshal event).length + 1 - (marshal event).length = 1 by omega]
    rfl
  simp only [Decoder.scan, Decoder.open, if_pos inside, line, marshal_kept, dropped]

theorem scan_long (long : maxTokenSize ≤ (marshal event).length) :
    ∃ next, (Decoder.open (frame event ++ rest)).scan = (none, next) ∧ next.held.isSome = true := by
  have buffer : (frame event ++ rest).take maxTokenSize = (marshal event).take maxTokenSize := by
    rw [frame, List.append_assoc, List.take_append_of_le_length long]
  have outside : newline ∉ (frame event ++ rest).take maxTokenSize := by
    rw [buffer]
    exact fun member => marshal_line event (List.mem_of_mem_take member)
  have full : maxTokenSize ≤ (frame event ++ rest).length := by
    rw [frame, List.length_append, List.length_append]
    omega
  refine ⟨⟨(frame event ++ rest).drop maxTokenSize, some ((frame event ++ rest).take maxTokenSize)⟩, ?_, rfl⟩
  simp only [Decoder.scan, Decoder.open]
  exact (if_neg outside).trans (if_pos full)

theorem marshal_ne_nil : marshal event ≠ [] := by
  obtain ⟨body, same⟩ := marshal_closes event
  rw [same]
  exact List.concat_ne_nil 125 body

theorem read_frame (short : (marshal event).length < maxTokenSize) :
    (Decoder.open (frame event ++ rest)).read = (.ok event.sanitized, .open rest) := by
  rw [Decoder.read, scan_frame event rest short]
  simp only [marshal_ne_nil event, if_false, unmarshal_marshal]

theorem read_long (long : maxTokenSize ≤ (marshal event).length) :
    (Decoder.open (frame event ++ rest)).read.1 = .error .tooLong := by
  obtain ⟨next, scanned, stopped⟩ := scan_long event rest long
  rw [Decoder.read, scanned]
  simp only [stopped, if_true]

theorem sanitized_fits (fits : event.Fits) : event.sanitized = event := by
  have valid := (unmarshal_iff event).mpr fits.valid
  rw [unmarshal_marshal] at valid
  exact Option.some.inj valid

theorem read_fits (fits : event.Fits) :
    (Decoder.open (frame event ++ rest)).read = (.ok event, .open rest) := by
  rw [read_frame event rest fits.short, sanitized_fits event fits]

theorem read_iff :
    (Decoder.open (frame event ++ rest)).read.1 = .ok event ↔ event.Fits := by
  refine ⟨fun same => ?_, fun fits => by rw [read_fits event rest fits]⟩
  rcases Nat.lt_or_ge (marshal event).length maxTokenSize with short | long
  · refine ⟨(unmarshal_iff event).mp ?_, short⟩
    rw [read_frame event rest short] at same
    rw [unmarshal_marshal, Except.ok.inj same]
  · rw [read_long event rest long] at same
    cases same

theorem readMany_iff (events : List AgentEvent) :
    Decoder.readMany (events.length + 1) (.open (events.flatMap frame)) = events.map .ok ++ [.error .closed] ↔
      ∀ event ∈ events, event.Fits := by
  induction events with
  | nil => exact ⟨fun _ => List.forall_mem_nil _, fun _ => rfl⟩
  | cons event rest ih =>
      rw [List.flatMap_cons, List.length_cons, Decoder.readMany, List.map_cons, List.cons_append, List.cons.injEq, read_iff,
        List.forall_mem_cons]
      refine and_congr_right fun fits => ?_
      rw [read_fits event _ fits]
      exact ih

theorem progress_kind (run : CommandRun) (event : AgentEvent) (member : event ∈ run.progressEvents) :
    event.kind = eventProgress := by
  obtain ⟨emitted, _, rfl⟩ := List.mem_map.mp member
  rfl

theorem executeCommand_kind (run : CommandRun) : run.executeCommand.kind ≠ eventProgress := by
  unfold CommandRun.executeCommand
  cases run.handled.error with
  | none => exact show eventCompletedSuccess ≠ eventProgress by decide
  | some reason => exact show eventCompletedFailure ≠ eventProgress by decide

theorem send_frames (progress : List AgentEvent) (event : AgentEvent) (rest : Bytes) (fuel : Nat)
    (steps : ∀ earlier ∈ progress, earlier.kind = eventProgress) (ends : event.kind ≠ eventProgress)
    (fits : ∀ other ∈ progress ++ [event], other.Fits) (enough : progress.length < fuel) :
    (Decoder.open ((progress ++ [event]).flatMap frame ++ rest)).send fuel = (progress, .ok event, .open rest) := by
  induction progress generalizing fuel with
  | nil =>
      cases fuel with
      | zero => cases enough
      | succ fuel =>
          have fit := fits event (List.mem_singleton.mpr rfl)
          rw [List.nil_append, List.flatMap_singleton, Decoder.send, read_fits event rest fit]
          simp only [if_neg ends]
  | cons first others ih =>
      cases fuel with
      | zero => cases enough
      | succ fuel =>
          obtain ⟨step, steps⟩ := List.forall_mem_cons.mp steps
          rw [List.cons_append, List.forall_mem_cons] at fits
          rw [List.cons_append, List.flatMap_cons, List.append_assoc, Decoder.send, read_fits first _ fits.1]
          simp only [if_pos step]
          rw [ih fuel steps fits.2 (Nat.lt_of_succ_lt_succ enough)]

theorem frames_length (events : List AgentEvent) : events.length ≤ (events.flatMap frame).length := by
  induction events with
  | nil => exact Nat.le_refl 0
  | cons event rest ih =>
      rw [List.flatMap_cons, List.length_append, List.length_cons, frame, List.length_append, List.length_singleton]
      omega

theorem dispatch_fits (run : CommandRun) (fits : ∀ event ∈ run.events, event.Fits) :
    dispatch .fresh run = ({ progress := run.progressEvents, event := run.executeCommand }, .fresh) := by
  have enough : run.progressEvents.length < run.written.length + 1 := by
    have counted := frames_length run.events
    rw [CommandRun.events, List.length_append, List.length_singleton] at counted
    exact Nat.lt_succ_of_lt counted
  have sent : (Decoder.open run.written).send ((Decoder.open run.written).unread.length + 1) =
      (run.progressEvents, .ok run.executeCommand, .open []) := by
    have read := send_frames run.progressEvents run.executeCommand [] (run.written.length + 1) (progress_kind run)
      (executeCommand_kind run) fits enough
    rw [List.append_nil] at read
    exact read
  have fed : Runner.fresh.decoder.feed run.written = Decoder.open run.written := rfl
  rw [dispatch, if_neg (show ¬ Runner.fresh.closed = true from Bool.false_ne_true), fed]
  simp only [sent]
  rfl

theorem serve_fits (runs : List CommandRun) (fits : ∀ run ∈ runs, ∀ event ∈ run.events, event.Fits) :
    serve .fresh runs = runs.map fun run => { progress := run.progressEvents, event := run.executeCommand } := by
  induction runs with
  | nil => rfl
  | cons run rest ih =>
      obtain ⟨first, others⟩ := List.forall_mem_cons.mp fits
      rw [serve, dispatch_fits run first, List.map_cons, ih others]

theorem frames_survive_iff (runs : List CommandRun) :
    Survives runs ↔ ∀ run ∈ runs, ∀ event ∈ run.events, event.Fits := by
  have written : runs.flatMap CommandRun.written = (runs.flatMap CommandRun.events).flatMap frame := by
    rw [List.flatMap_assoc]
    rfl
  have each : (∀ event ∈ runs.flatMap CommandRun.events, event.Fits) ↔ ∀ run ∈ runs, ∀ event ∈ run.events, event.Fits := by
    simp only [List.mem_flatMap, forall_exists_index, and_imp]
    exact ⟨fun all run member event inside => all event run member inside, fun all event run member inside =>
      all run member event inside⟩
  refine ⟨fun survives => ?_, fun fits => ⟨?_, serve_fits runs fits⟩⟩
  · have decoded := survives.decoded
    rw [written, readMany_iff] at decoded
    exact each.mp decoded
  · rw [written, readMany_iff]
    exact each.mpr fits

def sampleHeader : CommandHeader := { commandId := ascii "c1", traceparent := [], completionToken := ascii "t" }

def verboseRun (count : Nat) : ProgramRun := {
  lines := [(ascii "2026-01-01T00:00:00Z", List.replicate count 97), (ascii "2026-01-01T00:00:01Z", List.replicate count 97)]
  stderr := [], exitCode := 0, durationMs := 1000, failure := none, artifact := .ok none, pushError := none }

def verboseCommand (count : Nat) : CommandRun := {
  header := sampleHeader, traceparent := ascii "00-0af7651916cd43dd8448eb211c80319c-b7ad6b7169203331-01"
  now := ascii "2026-01-01T00:00:02Z", handled := runProgram "claude" (ascii "w1") (verboseRun count) }

theorem encodeChars_replicate : encodeChars (List.replicate count 'a') = List.replicate count 97 := by
  induction count with
  | zero => rfl
  | succ count ih => rw [List.replicate_succ, encodeChars_cons, ih]; rfl

def verboseLine (count : Nat) : List Char := List.replicate count 'a' ++ ['\n']

theorem verbose_stdout : (verboseRun count).stdout = encodeChars (verboseLine count ++ verboseLine count) := by
  rw [encodeChars_append, verboseLine, encodeChars_append, encodeChars_replicate]
  simp only [ProgramRun.stdout, verboseRun, List.flatMap_cons, List.flatMap_nil, List.append_nil]
  rfl

theorem verbose_size : 2 * count ≤ (encodeChars (verboseLine count ++ verboseLine count)).length := by
  have counted := length_encodeChars (verboseLine count ++ verboseLine count)
  have line : (verboseLine count).length = count + 1 := by
    rw [verboseLine, List.length_append, List.length_replicate, List.length_singleton]
  rw [List.length_append, line] at counted
  omega

theorem verbose_outputs :
    ("outputs", JsonValue.object (verboseCommand count).handled.result.toWire) ∈
      (verboseCommand count).executeCommand.fields := by
  have wire : (verboseCommand count).executeCommand.outputs = (verboseCommand count).handled.result.toWire := rfl
  rw [AgentEvent.fields, wire]
  simp [verboseCommand, runProgram, Result.toWire]

theorem verbose_carries :
    ("stdout", JsonValue.text (verboseRun count).stdout) ∈ (verboseCommand count).handled.result.toWire := by
  have quiet : (verboseRun count).error "claude" = none := rfl
  simp only [verboseCommand, runProgram, quiet, Result.toWire, List.mem_cons, true_or, or_true]

theorem verbose_frame : 2 * count ≤ (marshal (verboseCommand count).executeCommand).length := by
  have stdout := verbose_carries count
  rw [verbose_stdout] at stdout
  calc 2 * count ≤ (encodeChars (verboseLine count ++ verboseLine count)).length + 2 :=
        Nat.le_add_right_of_le (verbose_size count)
    _ ≤ (encodeChars (JsonValue.text (encodeChars (verboseLine count ++ verboseLine count))).chars).length :=
        text_length _
    _ ≤ (encodeChars (JsonValue.object (verboseCommand count).handled.result.toWire).chars).length :=
        object_length "stdout" _ _ stdout
    _ ≤ (marshal (verboseCommand count).executeCommand).length := object_length "outputs" _ _ (verbose_outputs count)

theorem verbose_lost (big : maxTokenSize ≤ 2 * count) : ¬ Survives [verboseCommand count] := by
  intro survives
  have fits := (frames_survive_iff [verboseCommand count]).mp survives (verboseCommand count)
    (List.mem_singleton.mpr rfl) (verboseCommand count).executeCommand (List.mem_append_right _ (List.mem_singleton.mpr rfl))
  exact absurd fits.short (Nat.not_lt.mpr (Nat.le_trans big (verbose_frame count)))

theorem verbose_output_lost : ¬ ∀ runs : List CommandRun, Survives runs :=
  fun always => verbose_lost (4 * 1024 * 1024) (Nat.le_refl _) (always [verboseCommand (4 * 1024 * 1024)])

end Yaaos.Agent.Ipc
