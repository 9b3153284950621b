import Yaaos.CodingAgent.Stream

set_option autoImplicit false

namespace Yaaos.CodingAgent.ClaudeCode

open Yaaos.Base

section Tools

variable (python : Python)

def shown (value : PyValue) : PyValue := .str (value.show python)

def isOneOf (tool : PyValue) (names : List String) : Bool := names.any tool.isText

def contentBearing (tool : PyValue) : Except PyError Bool :=
  match tool with
  | .list _ | .dict _ => .error .typeError
  | other => .ok (isOneOf other ["Edit", "MultiEdit", "Write", "NotebookEdit"])

def readTools : List String := ["Read", "Glob", "LS", "NotebookRead"]

def inputText (inp : PyDict) (key : String) : PyText := ((PyDict.get inp key).orElse (.str [])).show python

def safeToolInput (tool : PyValue) (inp : PyDict) : Except PyError PyDict := do
  if ← contentBearing tool then
    let path := (PyDict.get inp "file_path").orElse (PyDict.get inp "path")
    .ok (if path.truthy then [(pyText "file_path", shown python path)] else [])
  else if isOneOf tool readTools then
    let path := ((PyDict.get inp "file_path").orElse (PyDict.get inp "path")).orElse (PyDict.get inp "pattern")
    .ok (if path.truthy then [(pyText "target", shown python path)] else [])
  else if tool.isText "Bash" then
    .ok [(pyText "command_prefix", .str (excerpt 120 (inputText python inp "command")))]
  else if tool.isText "Grep" then
    .ok [(pyText "pattern", .str (inputText python inp "pattern")), (pyText "path", .str (inputText python inp "path"))]
  else if tool.isText "WebFetch" then .ok [(pyText "url", .str (inputText python inp "url"))]
  else if tool.isText "WebSearch" then .ok [(pyText "query", .str (inputText python inp "query"))]
  else if tool.isText "TodoWrite" then
    match (PyDict.get inp "todos").orElse (.list []) with
    | .list todos => .ok [(pyText "todo_count", .int todos.length)]
    | _ => .ok [(pyText "todo_count", .int 0)]
  else .ok []

def summarizeToolInput (tool : PyValue) (inp : PyDict) : PyText :=
  if isOneOf tool readTools then
    let path := ((PyDict.get inp "file_path").orElse (PyDict.get inp "path")).orElse (PyDict.get inp "pattern")
    (path.orElse (.str [])).show python
  else if tool.isText "Bash" then excerpt 120 (inputText python inp "command")
  else if tool.isText "Grep" then
    let pattern := reprText python (inputText python inp "pattern")
    let path := inputText python inp "path"
    if path.isEmpty then pattern else pattern ++ pyText " in " ++ path
  else if tool.isText "WebFetch" then inputText python inp "url"
  else if tool.isText "WebSearch" then inputText python inp "query"
  else if tool.isText "TodoWrite" then
    match (PyDict.get inp "todos").orElse (.list []) with
    | .list todos => pyText (toString todos.length) ++ pyText " todos"
    | _ => []
  else []

end Tools

section Activity

variable (python : Python)

def messageOf (event : PyDict) : Except PyError PyDict :=
  match (PyDict.get event "message").orElse (.dict []) with
  | .dict message => .ok message
  | _ => .error .attributeError

-- The blocks that `for block in msg.get("content", []) or []` runs over: the
-- letters of a text, the keys of an object.
def contentOf (message : PyDict) : Except PyError (List PyValue) :=
  match (PyDict.get message "content").orElse (.list []) with
  | .list items => .ok items
  | .str letters => .ok (letters.map fun letter => .str [letter])
  | .dict entries => .ok (entries.map fun entry => .str entry.1)
  | _ => .error .typeError

def renderToolUse (block : PyDict) : Except PyError Rendered :=
  let tool := (PyDict.get block "name").orElse (.str (pyText "?"))
  let inp := match PyDict.get block "input" with
    | .dict entries => entries
    | _ => []
  if tool.isText "Task" then
    let subagent := (PyDict.get inp "subagent_type").orElse (.str (pyText "subagent"))
    .ok
      { kind := .subagentDispatched, message := .str (pyText "Dispatching " ++ subagent.show python)
        detail := [(pyText "subagent", subagent), (pyText "tool_use_id", PyDict.get block "id"),
          (pyText "description", PyDict.get inp "description")] }
  else do
    let target := summarizeToolInput python tool inp
    let safe ← safeToolInput python tool inp
    .ok
      { kind := .toolCallStarted
        message := if target.isEmpty then tool else .str (tool.show python ++ pyText ": " ++ target)
        detail := [(pyText "tool", tool), (pyText "tool_use_id", PyDict.get block "id"),
          (pyText "input_summary", .dict safe)] }

def strippedText (block : PyDict) : Except PyError PyText :=
  match (PyDict.get block "text").orElse (.str []) with
  | .str letters => .ok (strip letters)
  | _ => .error .attributeError

def renderAssistant : List PyValue → Except PyError (Option Rendered)
  | [] => .ok none
  | .dict block :: rest =>
      if (PyDict.get block "type").isText "tool_use" then (renderToolUse python block).map some
      else if (PyDict.get block "type").isText "text" then do
        let letters ← strippedText block
        if letters.isEmpty then renderAssistant rest
        else .ok (some { kind := .assistantMessage, message := .str (excerpt 200 letters), detail := [] })
      else renderAssistant rest
  | _ :: _ => .error .attributeError

def toolResultSize (content : PyValue) : Nat :=
  match content with
  | .list items => (items.map fun item => match item with
      | .dict entries => (((entries.lookup (pyText "text")).getD item).show python).length
      | other => (other.show python).length).sum
  | other => ((other.orElse (.str [])).show python).length

def renderToolResult (block : PyDict) : Rendered :=
  let size := toolResultSize python (PyDict.get block "content")
  let isError := (PyDict.get block "is_error").truthy
  let message :=
    if isError then "→ error" else if size = 0 then "→ ok (empty)" else "→ ok (" ++ toString size ++ " bytes)"
  { kind := .toolCallFinished, message := .str (pyText message)
    detail := [(pyText "tool_use_id", PyDict.get block "tool_use_id"), (pyText "is_error", .bool isError),
      (pyText "size_bytes", .int size)] }

def renderUser : List PyValue → Except PyError (Option Rendered)
  | [] => .ok none
  | .dict block :: rest =>
      if (PyDict.get block "type").isText "tool_result" then .ok (some (renderToolResult python block))
      else renderUser rest
  | _ :: _ => .error .attributeError

def renderActivity (event : PyDict) : Except PyError (Option Rendered) :=
  let kind := PyDict.get event "type"
  if kind.isText "system" && (PyDict.get event "subtype").isText "init" then
    let model := (PyDict.get event "model").orElse (.str (pyText "?"))
    .ok (some
      { kind := .sessionStart, message := .str (pyText "Session started · model " ++ model.show python)
        detail := [(pyText "model", model), (pyText "session_id", PyDict.get event "session_id")] })
  else if kind.isText "assistant" then do
    let message ← messageOf event
    let content ← contentOf message
    renderAssistant python content
  else if kind.isText "user" then do
    let message ← messageOf event
    let content ← contentOf message
    renderUser python content
  else if kind.isText "result" then
    .ok (some
      { kind := .result, message := .str (pyText "Review complete")
        detail := [(pyText "duration_ms", PyDict.get event "duration_ms"),
          (pyText "num_turns", PyDict.get event "num_turns")] })
  else .ok none

end Activity

section Parsing

variable (python : Python)

def resultEvent (events : List PyDict) : Option PyDict :=
  events.reverse.find? fun event => (PyDict.get event "type").isText "result"

def usageOf (events : List PyDict) : Usage :=
  match resultEvent events with
  | none => { tokensIn := none, tokensOut := none }
  | some event => match PyDict.get event "usage" with
      | .dict usage =>
          { tokensIn := intOf (PyDict.get usage "input_tokens"), tokensOut := intOf (PyDict.get usage "output_tokens") }
      | _ => { tokensIn := none, tokensOut := none }

def outputOf (events : List PyDict) : PyText :=
  match (resultEvent events).map fun event => PyDict.get event "result" with
  | some (.str letters) => letters
  | _ => []

def parseResult (payload : PyDict) : Except PyError RunResult := do
  let stdout ← stdoutOf payload
  let events ← parseStreamEvents python stdout
  let activity ← renderActivityLog (renderActivity python) 0 events
  .ok
    { output := outputOf events, errorMessage := none, usage := usageOf events
      durationMs := (resultEvent events).bind fun event => intOf (PyDict.get event "duration_ms")
      exitCode := intOf (PyDict.get payload "exit_code"), activity := activity }

end Parsing

def emptyOr (value : PyValue) (shaped : PyValue → Bool) : Bool := !value.truthy || shaped value

def readableToolUse (block : PyDict) : Bool := emptyOr (PyDict.get block "name") PyValue.isStr

def readableAssistant : List PyValue → Bool
  | [] => true
  | .dict block :: rest =>
      if (PyDict.get block "type").isText "tool_use" then readableToolUse block
      else if (PyDict.get block "type").isText "text" then
        match PyDict.get block "text" with
        | .str letters => !(strip letters).isEmpty || readableAssistant rest
        | other => !other.truthy && readableAssistant rest
      else readableAssistant rest
  | _ :: _ => false

def readableUser : List PyValue → Bool
  | [] => true
  | .dict block :: rest => (PyDict.get block "type").isText "tool_result" || readableUser rest
  | _ :: _ => false

def readableMessage (blocks : List PyValue → Bool) (event : PyDict) : Bool :=
  emptyOr (PyDict.get event "message") fun message => match message with
    | .dict fields => emptyOr (PyDict.get fields "content") fun content => match content with
        | .list items => blocks items
        | _ => false
    | _ => false

def readable (event : PyDict) : Bool :=
  let kind := PyDict.get event "type"
  if kind.isText "assistant" then readableMessage readableAssistant event
  else if kind.isText "user" then readableMessage readableUser event
  else true

section Readable

variable (python : Python)

def shows : Except PyError (Option Rendered) → Bool
  | .ok none => true
  | .ok (some rendered) => rendered.message.isStr
  | .error _ => false

end Readable

end Yaaos.CodingAgent.ClaudeCode
