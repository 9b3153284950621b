import Yaaos.Base.PyValue

set_option autoImplicit false

namespace Yaaos.CodingAgent

open Yaaos.Base

inductive PyError where
  | attributeError
  | typeError
  | unicodeEncodeError
  | recursionError
  | valueError
  | validationError
  deriving DecidableEq

inductive ActivityKind where
  | sessionStart
  | subagentDispatched
  | toolCallStarted
  | assistantMessage
  | toolCallFinished
  | result
  deriving DecidableEq

-- What a renderer returns, before the typed event is built from it.
structure Rendered where
  kind : ActivityKind
  message : PyValue
  detail : PyDict

structure ActivityEvent where
  seq : Nat
  kind : ActivityKind
  message : PyText
  detail : PyDict

structure Usage where
  tokensIn : Option Int
  tokensOut : Option Int

structure RunResult where
  output : PyText
  errorMessage : Option PyText
  usage : Usage
  durationMs : Option Int
  exitCode : Option Int
  activity : List ActivityEvent

def intOf : PyValue → Option Int
  | .int value => some value
  | .bool value => some (if value then 1 else 0)
  | _ => none

section Reading

variable (python : Python)

def readLine (line : PyText) : Except PyError (Option PyDict) :=
  match python.loads line with
  | .ok (.dict event) => .ok (some event)
  | .ok _ | .error .jsonDecodeError => .ok none
  | .error .recursionError => .error .recursionError
  | .error .valueError => .error .valueError

def readLines : List PyText → Except PyError (List PyDict)
  | [] => .ok []
  | line :: rest =>
      if (strip line).isEmpty then readLines rest
      else do
        let event ← readLine python (strip line)
        let events ← readLines rest
        .ok (event.toList ++ events)

def parseStreamEvents (stdout : PyText) : Except PyError (List PyDict) := readLines python (splitLines stdout)

def stdoutOf (payload : PyDict) : Except PyError PyText :=
  match PyDict.get payload "stdout" with
  | .str letters => .ok letters
  | other => if other.truthy then .error .attributeError else .ok []

def activityEvent (seq : Nat) (rendered : Rendered) : Except PyError ActivityEvent :=
  match rendered.message with
  | .str message => .ok { seq := seq, kind := rendered.kind, message := message, detail := rendered.detail }
  | _ => .error .validationError

variable (render : PyDict → Except PyError (Option Rendered))

def renderActivityLog : Nat → List PyDict → Except PyError (List ActivityEvent)
  | _, [] => .ok []
  | seq, event :: rest => do
      match ← render event with
      | none => renderActivityLog seq rest
      | some rendered =>
          let first ← activityEvent seq rendered
          let others ← renderActivityLog (seq + 1) rest
          .ok (first :: others)

end Reading

section Returning

variable {α β : Type}

theorem isOk_ok (body : Except PyError α) : body.isOk = true ↔ ∃ value, body = .ok value := by
  cases body <;> simp [Except.isOk, Except.toBool]

end Returning

section Decoding

variable (python : Python)

def filled (lines : List PyText) : List PyText := (lines.map strip).filter fun line => !line.isEmpty

def written (stdout : PyText) : List PyText := filled (splitLines stdout)

end Decoding

section Rendering

variable (render : PyDict → Except PyError (Option Rendered))

end Rendering

end Yaaos.CodingAgent
