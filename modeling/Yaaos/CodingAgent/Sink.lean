import Yaaos.Base.Outcome
import Yaaos.CodingAgent.Codex
import Yaaos.Gateway.Events

set_option autoImplicit false

namespace Yaaos.CodingAgent

open Yaaos.Base
open Yaaos.Gateway (AgentEvent AgentCommandRow CodingAgentRunRow GatewayDb GatewayError EventEnv WireUuid)

inductive Vendor where
  | claudeCode
  | codex
  deriving DecidableEq

section Vendors

variable (python : Python)

def Vendor.renderActivity : Vendor → PyDict → Except PyError (Option Rendered)
  | .claudeCode => ClaudeCode.renderActivity python
  | .codex => Codex.renderActivity python

def Vendor.readable : Vendor → PyDict → Bool
  | .claudeCode => ClaudeCode.readable
  | .codex => Codex.readable python

def Vendor.parseResult : Vendor → PyDict → Except PyError RunResult
  | .claudeCode => ClaudeCode.parseResult python
  | .codex => Codex.parseResult python

end Vendors

section Values

-- Of a float in the outputs of an event only its truth is ever asked.
def floatText (mantissa : Int) (exponent : Nat) : PyText :=
  pyText (if mantissa = 0 then "0.0" else toString mantissa ++ "e-" ++ toString exponent)

mutual

def ofJson : Json → PyValue
  | .null => .none
  | .bool value => .bool value
  | .num mantissa 0 => .int mantissa
  | .num mantissa (exponent + 1) => .float (floatText mantissa (exponent + 1))
  | .str text => .str (pyText text)
  | .arr items => .list (ofItems items)
  | .obj fields => .dict (ofFields fields)

def ofItems : List Json → List PyValue
  | [] => []
  | item :: rest => ofJson item :: ofItems rest

def ofFields : Dict Json → PyDict
  | [] => []
  | (key, value) :: rest => (pyText key, ofJson value) :: ofFields rest

end

def textOf (letters : PyText) : String := String.ofList (letters.map Char.ofNat)

-- The number that the serializer writes for the repr of a float; none where JSONB refuses what it writes.
variable (decimal : PyText → Option (Int × Nat))

mutual

def storableValue : PyValue → Bool
  | .none | .bool _ | .int _ => true
  | .float digits => (decimal digits).isSome
  | .str letters => storableLetters letters
  | .list items => storableValues items
  | .dict entries => storableEntries entries

def storableValues : List PyValue → Bool
  | [] => true
  | item :: rest => storableValue item && storableValues rest

def storableEntries : PyDict → Bool
  | [] => true
  | (key, value) :: rest => storableLetters key && storableValue value && storableEntries rest

end

mutual

def jsonOf : PyValue → Json
  | .none => .null
  | .bool value => .bool value
  | .int value => .num value 0
  | .float digits => match decimal digits with
      | none => .null
      | some (mantissa, exponent) => .num mantissa exponent
  | .str letters => .str (textOf letters)
  | .list items => .arr (jsonItems items)
  | .dict entries => .obj (jsonEntries entries)

def jsonItems : List PyValue → List Json
  | [] => []
  | item :: rest => jsonOf item :: jsonItems rest

def jsonEntries : PyDict → Dict Json
  | [] => []
  | (key, value) :: rest => (textOf key, jsonOf value) :: jsonEntries rest

end

def ActivityKind.text : ActivityKind → String
  | .sessionStart => "session_start"
  | .subagentDispatched => "subagent_dispatched"
  | .toolCallStarted => "tool_call_started"
  | .assistantMessage => "assistant_message"
  | .toolCallFinished => "tool_call_finished"
  | .result => "result"

def activityJson (activity : List ActivityEvent) : Json :=
  .obj [("events", .arr (activity.map fun event => .obj [
    ("seq", .num event.seq 0), ("kind", .str event.kind.text), ("message", .str (textOf event.message)),
    ("detail", .obj (jsonEntries decimal event.detail))]))]

def stored (result : RunResult) : Gateway.RunResult :=
  { output := textOf result.output, errorMessage := result.errorMessage.map textOf
    tokensIn := result.usage.tokensIn, tokensOut := result.usage.tokensOut
    durationMs := result.durationMs, exitCode := result.exitCode, activity := activityJson decimal result.activity }

end Values

structure SinkEnv where
  now : Nat
  sha256 : String → String
  consumers : List String
  vendors : String → Option Vendor
  providerId : String
  agentId : Option WireUuid
  python : Python
  decimal : PyText → Option (Int × Nat)

-- `refused` is the database's own error, at the flush of what it cannot store.
inductive SinkError where
  | gateway (error : GatewayError)
  | raised (error : PyError)
  | refused

def runOf (commandId : WireUuid) (db : GatewayDb) : Option CodingAgentRunRow :=
  db.codingAgentRuns.rows.find? fun run => decide (run.agentCommandId = commandId)

def int4 (value : Int) : Bool := -2 ^ 31 ≤ value && value < 2 ^ 31

def statusOf (event : AgentEvent) : Gateway.AgentRunStatus :=
  if event.kind = .completedSuccess then .success else .failure

def columnsFit (env : SinkEnv) (run : CodingAgentRunRow) (status : Gateway.AgentRunStatus) (result : RunResult) : Bool :=
  let row := Gateway.finalizedRun env.now status (stored env.decimal result) run
  int4 row.tokensIn && int4 row.tokensOut && row.durationMs.all int4 && row.exitCode.all int4 &&
    result.activity.all fun event => storableLetters event.message && storableEntries env.decimal event.detail

def enrichment (env : SinkEnv) (result : RunResult) : Dict Json :=
  [("output", .str (stored env.decimal result).output),
    ("error_message", Gateway.optionalText (stored env.decimal result).errorMessage)]

-- A raising parser is not caught here.
def handleTerminalEvent (env : SinkEnv) (row : AgentCommandRow) (event : AgentEvent) (db : GatewayDb) :
    Except SinkError (GatewayDb × Option RunResult) :=
  if Gateway.runBearingKinds.contains row.commandKind then
    match runOf event.commandId db with
    | none => .ok (db, none)
    | some run => match env.vendors run.pluginId with
      | none => .ok (db, none)
      | some vendor => match vendor.parseResult env.python (ofFields event.outputs) with
        | .error error => .error (.raised error)
        | .ok result =>
            if columnsFit env run (statusOf event) result then
              .ok (Gateway.finalizeRun env.now run (statusOf event) (stored env.decimal result) db, some result)
            else .error .refused
  else .ok (db, none)

def noResult : Gateway.RunResult :=
  { output := "", errorMessage := none, tokensIn := none, tokensOut := none, durationMs := none, exitCode := none
    activity := .null }

def SinkEnv.gateway (env : SinkEnv) : EventEnv :=
  { now := env.now, sha256 := env.sha256, consumers := env.consumers, providerId := env.providerId
    agentId := env.agentId
    plugins := fun pluginId => (env.vendors pluginId).map fun vendor outputs =>
      match vendor.parseResult env.python (ofFields outputs) with
      | .ok result => stored env.decimal result
      | .error _ => noResult }

def retiredDb (row : AgentCommandRow) (event : AgentEvent) (db : GatewayDb) : GatewayDb :=
  let configured := Gateway.configureAgent row event db
  let released := Gateway.releaseCommandClaim event.commandId configured
  Gateway.retireCommand event.commandId released

def sendable (env : SinkEnv) (event : AgentEvent) (result : Option RunResult) : Bool :=
  result.all (fun parsed => storableLetters parsed.output && parsed.errorMessage.all storableLetters) &&
    (Json.obj (Gateway.assembleOutputs event (result.map (enrichment env)))).storable &&
      storableText event.label && storableText event.traceparent

def recordTerminalEvent (env : SinkEnv) (row : AgentCommandRow) (event : AgentEvent) (db : GatewayDb) :
    Except SinkError GatewayDb :=
  match handleTerminalEvent env row event (retiredDb row event db) with
  | .error error => .error error
  | .ok (finalized, result) =>
      let outputs := Gateway.assembleOutputs event (result.map (enrichment env))
      match Gateway.materialise env.gateway row event finalized with
      | .error error => .error (.gateway error)
      | .ok materialised => match row.runId with
          | none => .ok materialised
          | some runId =>
              if env.consumers.isEmpty || sendable env event result then
                .ok (Gateway.enqueueAgentEvent env.consumers runId event.commandId event.label outputs
                  (some event.traceparent) materialised)
              else .error .refused

def recordAgentEvent (env : SinkEnv) (event : AgentEvent) (db : GatewayDb) : Except SinkError GatewayDb :=
  match db.agentCommands.find? event.commandId with
  | none => .error (.gateway (.staleClaim event.commandId))
  | some row =>
      if Gateway.tokenAccepted env.gateway row event then
        if event.kind = .received then .ok (Gateway.acknowledgeCommandReceived event.commandId db)
        else if event.isTerminal then recordTerminalEvent env row event db
        else .ok db
      else .error (.gateway (.staleClaim event.commandId))

section Handling

variable (env : SinkEnv) (row : AgentCommandRow) (event : AgentEvent) (db : GatewayDb)

end Handling

def plainLoads (line : PyText) : Except LoadError PyValue :=
  if line = pyText "\x7b\"type\":\"assistant\",\"message\":\"x\"\x7d" then
    .ok (.dict [(pyText "type", .str (pyText "assistant")), (pyText "message", .str (pyText "x"))])
  else .error .jsonDecodeError

def sampleEnv : SinkEnv :=
  { now := 100, sha256 := id, consumers := ["pipelines"]
    vendors := fun pluginId =>
      if pluginId = "claude_code" then some .claudeCode else if pluginId = "codex" then some .codex else none
    providerId := "remote_agent", agentId := some 9
    python := { loads := plainLoads, printable := fun _ => true }, decimal := fun _ => some (0, 0) }

def invocation : AgentCommandRow :=
  { id := 1, orgId := 2, workspaceId := some 3, runId := some 4, commandKind := .invokeClaudeCode, payload := []
    status := .claimed, agentId := some 9, completionTokenHash := some "secret", claimedAt := some 50, attempt := 1 }

def ended (stdout : String) : AgentEvent :=
  { commandId := 1, kind := .completedSuccess, outcomeLabel := none
    outputs := [("stdout", .str stdout), ("exit_code", .num 0 0)], failureReason := none, traceparent := ""
    completionToken := some "secret", artifact := none, artifactError := none }

end Yaaos.CodingAgent
