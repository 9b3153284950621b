import Yaaos.CodingAgent.ClaudeCode

set_option autoImplicit false

namespace Yaaos.CodingAgent.Codex

open Yaaos.Base
open Yaaos.CodingAgent.ClaudeCode (shows emptyOr)

def itemOf (event : PyDict) : Except PyError PyDict :=
  match (PyDict.get event "item").orElse (.dict []) with
  | .dict item => .ok item
  | _ => .error .attributeError

def isAssistantMessage (item : PyDict) : Bool :=
  (PyDict.get item "type").isText "message" && (PyDict.get item "role").isText "assistant"

def contentOf (item : PyDict) : Except PyError (List PyValue) :=
  match (PyDict.get item "content").orElse (.list []) with
  | .list items => .ok items
  | .str letters => .ok (letters.map fun letter => .str [letter])
  | .dict entries => .ok (entries.map fun entry => .str entry.1)
  | _ => .error .typeError

def outputTexts (content : List PyValue) : List PyValue :=
  content.filterMap fun block => match block with
    | .dict fields =>
        if (PyDict.get fields "type").isText "output_text" then some ((PyDict.get fields "text").orElse (.str []))
        else none
    | _ => none

def textsOnly (parts : List PyValue) : List PyText :=
  parts.filterMap fun part => match part with
    | .str letters => some letters
    | _ => none

def extractFinalTextFrom (last : List PyText) : List PyDict → Except PyError (List PyText)
  | [] => .ok last
  | event :: rest =>
      if (PyDict.get event "type").isText "item.completed" then do
        let item ← itemOf event
        if isAssistantMessage item then
          let content ← contentOf item
          let parts := textsOnly (outputTexts content)
          extractFinalTextFrom (if parts.isEmpty then last else parts) rest
        else extractFinalTextFrom last rest
      else extractFinalTextFrom last rest

def extractFinalText (events : List PyDict) : Except PyError PyText :=
  (extractFinalTextFrom [] events).map List.flatten

def extractUsage (events : List PyDict) : Usage :=
  let completed := events.filterMap fun event =>
    if (PyDict.get event "type").isText "turn.completed" then
      match (PyDict.get event "usage").orElse (.dict []) with
      | .dict usage => some usage
      | _ => none
    else none
  match completed.head? with
  | none => { tokensIn := none, tokensOut := none }
  | some usage =>
      { tokensIn := intOf (PyDict.get usage "input_tokens"), tokensOut := intOf (PyDict.get usage "output_tokens") }

section Tools

variable (python : Python)

def member (inp : PyValue) (key : String) : Except PyError (Option PyValue) :=
  match inp with
  | .dict entries => .ok (entries.lookup (pyText key))
  | .list items => if items.any fun item => item.isText key then .error .typeError else .ok none
  | .str letters => if occursIn (pyText key) letters then .error .typeError else .ok none
  | _ => .error .typeError

def toolTarget (inp : PyValue) : Except PyError (Option (String × PyText)) := do
  match ← member inp "path" with
  | some value => .ok (some ("path", value.show python))
  | none => match ← member inp "command" with
    | some value => .ok (some ("command_prefix", excerpt 120 (value.show python)))
    | none => match ← member inp "query" with
      | some value => .ok (some ("query", value.show python))
      | none => match ← member inp "url" with
        | some value => .ok (some ("url", value.show python))
        | none => .ok none

def summarizeToolInput (inp : PyValue) : Except PyError PyText :=
  (toolTarget python inp).map fun target => (target.map Prod.snd).getD []

def safeToolInput (inp : PyValue) : Except PyError PyDict :=
  (toolTarget python inp).map fun target => match target with
    | none => []
    | some (key, letters) => [(pyText key, .str letters)]

def argumentsOf (item : PyDict) : Except PyError PyValue :=
  match (PyDict.get item "arguments").orElse (.str []) with
  | .str [] => .ok (.dict [])
  | .str letters => match python.loads letters with
      | .ok value => .ok value
      | .error .jsonDecodeError => .ok (.dict [])
      | .error .recursionError => .error .recursionError
      | .error .valueError => .error .valueError
  | _ => .ok (.dict [])

end Tools

section Activity

variable (python : Python)

def finished (item : PyDict) (message : String) (size : Nat) : Rendered :=
  { kind := .toolCallFinished, message := .str (pyText message)
    detail := [(pyText "tool_use_id", (PyDict.get item "call_id").orElse (.str [])), (pyText "is_error", .bool false),
      (pyText "size_bytes", .int size)] }

def renderCall (item : PyDict) : Except PyError Rendered := do
  let tool := (PyDict.get item "name").orElse (.str (pyText "tool"))
  let args ← argumentsOf python item
  let target ← summarizeToolInput python args
  let safe ← safeToolInput python args
  .ok
    { kind := .toolCallStarted
      message := if target.isEmpty then tool else .str (tool.show python ++ pyText ": " ++ target)
      detail := [(pyText "tool", tool), (pyText "tool_use_id", (PyDict.get item "call_id").orElse (.str [])),
        (pyText "input_summary", .dict safe)] }

def joined (parts : List PyValue) : Except PyError PyText :=
  if parts.all PyValue.isStr then .ok (textsOnly parts).flatten else .error .typeError

def renderMessage (item : PyDict) : Except PyError (Option Rendered) := do
  let content ← contentOf item
  let letters ← joined (outputTexts content)
  let shown := excerpt 200 (strip letters)
  .ok (if shown.isEmpty then none else some { kind := .assistantMessage, message := .str shown, detail := [] })

def outputSize (item : PyDict) : Except PyError Nat :=
  match encodedLength (((PyDict.get item "output").orElse (.str [])).show python) with
  | none => .error .unicodeEncodeError
  | some size => .ok size

def renderCompleted (item : PyDict) : Except PyError (Option Rendered) :=
  let kind := (PyDict.get item "type").orElse (.str [])
  if kind.isText "message" && (PyDict.get item "role").isText "assistant" then renderMessage item
  else if kind.isText "function_call" then .ok (some (finished item "→ ok" 0))
  else if kind.isText "function_call_output" then do
    let size ← outputSize python item
    .ok (some (finished item (if size = 0 then "→ ok (empty)" else "→ ok (" ++ toString size ++ " bytes)") size))
  else .ok none

def failureText (event : PyDict) : PyText :=
  match (PyDict.get event "error").orElse (.dict []) with
  | .dict fields => ((PyDict.get fields "message").orElse (.str ((PyValue.dict fields).show python))).show python
  | other => other.show python

def tokenDetail (key : String) (value : PyValue) : PyDict :=
  match intOf value with
  | none => []
  | some _ => [(pyText key, value)]

def renderActivity (event : PyDict) : Except PyError (Option Rendered) :=
  let kind := (PyDict.get event "type").orElse (.str [])
  if kind.isText "turn.started" then
    .ok (some
      { kind := .sessionStart, message := .str (pyText "Codex turn started")
        detail := [(pyText "model", .none), (pyText "session_id", .none)] })
  else if kind.isText "item.created" then do
    let item ← itemOf event
    if ((PyDict.get item "type").orElse (.str [])).isText "function_call" then (renderCall python item).map some
    else .ok none
  else if kind.isText "item.completed" then do
    let item ← itemOf event
    renderCompleted python item
  else if kind.isText "turn.completed" then
    let usage := match (PyDict.get event "usage").orElse (.dict []) with
      | .dict fields => fields
      | _ => []
    .ok (some
      { kind := .result, message := .str (pyText "Codex turn completed")
        detail := [(pyText "duration_ms", .none), (pyText "num_turns", .none)] ++
          tokenDetail "tokens_in" (PyDict.get usage "input_tokens") ++
          tokenDetail "tokens_out" (PyDict.get usage "output_tokens") })
  else if kind.isText "turn.failed" || kind.isText "error" then
    let message := failureText python event
    .ok (some
      { kind := .result
        message := .str (if message.isEmpty then pyText "Codex error" else pyText "Error: " ++ message)
        detail := [(pyText "duration_ms", .none), (pyText "num_turns", .none)] })
  else .ok none

def parseResult (payload : PyDict) : Except PyError RunResult := do
  let stdout ← stdoutOf payload
  let events ← parseStreamEvents python stdout
  let output ← extractFinalText events
  let activity ← renderActivityLog (renderActivity python) 0 events
  .ok
    { output := output, errorMessage := none, usage := extractUsage events, durationMs := none
      exitCode := intOf (PyDict.get payload "exit_code"), activity := activity }

end Activity

section Shapes

variable (python : Python)

def knownKeys : List String := ["path", "command", "query", "url"]

def targetable (inp : PyValue) : Bool :=
  match inp with
  | .dict _ => true
  | .list items => knownKeys.all fun key => !items.any fun item => item.isText key
  | .str letters => knownKeys.all fun key => !occursIn (pyText key) letters
  | _ => false

def untold (inp : PyValue) : Bool :=
  match inp with
  | .dict entries => match knownKeys.findSome? fun key => entries.lookup (pyText key) with
      | some value => (value.show python).isEmpty
      | none => true
  | _ => true

def readableCall (item : PyDict) : Bool :=
  match argumentsOf python item with
  | .error _ => false
  | .ok args => targetable args && (!untold python args || emptyOr (PyDict.get item "name") PyValue.isStr)

def readableBlock : PyValue → Bool
  | .dict fields =>
      !(PyDict.get fields "type").isText "output_text" || emptyOr (PyDict.get fields "text") PyValue.isStr
  | _ => true

def readableContent (item : PyDict) : Bool :=
  emptyOr (PyDict.get item "content") fun content => match content with
    | .list items => items.all readableBlock
    | .str _ | .dict _ => true
    | _ => false

def readableOutput (item : PyDict) : Bool :=
  !(((PyDict.get item "output").orElse (.str [])).show python).any isSurrogate

def readableItem (read : PyDict → Bool) (event : PyDict) : Bool :=
  emptyOr (PyDict.get event "item") fun item => match item with
    | .dict fields => read fields
    | _ => false

def readableCompleted (item : PyDict) : Bool :=
  if isAssistantMessage item then readableContent item
  else !(PyDict.get item "type").isText "function_call_output" || readableOutput python item

def readableCreated (item : PyDict) : Bool :=
  !(PyDict.get item "type").isText "function_call" || readableCall python item

def readable (event : PyDict) : Bool :=
  let kind := PyDict.get event "type"
  if kind.isText "item.created" then readableItem (readableCreated python) event
  else if kind.isText "item.completed" then readableItem (readableCompleted python) event
  else true

end Shapes

section Readable

variable (python : Python)

theorem isText_orElse (value : PyValue) (literal : String) (filled : pyText literal ≠ []) :
    (value.orElse (.str [])).isText literal = value.isText literal := by
  unfold PyValue.orElse
  by_cases truthy : value.truthy = true
  · rw [if_pos truthy]
  · rw [if_neg truthy]
    cases value <;> simp_all [PyValue.isText, PyValue.truthy]

theorem isText_apart (value : PyValue) (left right : String) (different : pyText left ≠ pyText right)
    (isLeft : value.isText left = true) : value.isText right = false := by
  cases value <;> simp [PyValue.isText] at isLeft ⊢
  rw [isLeft]
  exact different

theorem toolTarget_isOk (inp : PyValue) : (toolTarget python inp).isOk = targetable inp := by
  cases inp
  case dict entries =>
    simp only [toolTarget, member, bind, Except.bind, targetable]
    repeat' split
    all_goals rfl
  case list items =>
    simp only [toolTarget, member, targetable, knownKeys, List.all_cons, List.all_nil, Bool.and_true]
    cases items.any fun item => item.isText "path" <;> cases items.any fun item => item.isText "command" <;>
      cases items.any fun item => item.isText "query" <;> cases items.any fun item => item.isText "url" <;> rfl
  case str letters =>
    simp only [toolTarget, member, targetable, knownKeys, List.all_cons, List.all_nil, Bool.and_true]
    cases occursIn (pyText "path") letters <;> cases occursIn (pyText "command") letters <;>
      cases occursIn (pyText "query") letters <;> cases occursIn (pyText "url") letters <;> rfl
  all_goals rfl

theorem member_nothing (inp : PyValue) (key : String) (value : PyValue) (plain : ∀ entries, inp ≠ .dict entries) :
    member inp key ≠ .ok (some value) := by
  cases inp
  case dict entries => exact absurd rfl (plain entries)
  all_goals
    simp only [member]
    try split
    all_goals simp

theorem toolTarget_nothing (inp : PyValue) (plain : ∀ entries, inp ≠ .dict entries) (target : Option (String × PyText))
    (found : toolTarget python inp = .ok target) : target = none := by
  have nothing (key : String) : ∀ outcome, member inp key = .ok outcome → outcome = none := by
    intro outcome same
    cases outcome with
    | none => rfl
    | some value => exact absurd same (member_nothing inp key value plain)
  simp only [toolTarget, bind, Except.bind] at found
  cases path : member inp "path" with
  | error error => simp [path] at found
  | ok first =>
      rw [nothing "path" first path] at path
      cases command : member inp "command" with
      | error error => simp [path, command] at found
      | ok second =>
          rw [nothing "command" second command] at command
          cases query : member inp "query" with
          | error error => simp [path, command, query] at found
          | ok third =>
              rw [nothing "query" third query] at query
              cases url : member inp "url" with
              | error error => simp [path, command, query, url] at found
              | ok fourth =>
                  rw [nothing "url" fourth url] at url
                  simp only [path, command, query, url, Except.ok.injEq] at found
                  exact found.symm

end Readable

end Yaaos.CodingAgent.Codex
