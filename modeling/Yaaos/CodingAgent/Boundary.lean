import Yaaos.CodingAgent.Sink

set_option autoImplicit false

namespace Yaaos.CodingAgent.Boundary

open Yaaos.Base

def AgreeBut (key : String) (left right : PyDict) : Prop :=
  ∀ other, other ≠ pyText key → left.lookup other = right.lookup other

theorem agree_get (key other : String) (left right : PyDict) (agree : AgreeBut key left right)
    (apart : pyText other ≠ pyText key) : PyDict.get left other = PyDict.get right other := by
  unfold PyDict.get
  rw [agree (pyText other) apart]

theorem agree_last (key : String) (front : PyDict) (left right : PyValue) :
    AgreeBut key (front ++ [(pyText key, left)]) (front ++ [(pyText key, right)]) := by
  intro other apart
  rw [List.lookup_append, List.lookup_append, List.lookup_cons, List.lookup_cons, beq_false_of_ne apart]

theorem excerpt_take (limit : Nat) (letters : PyText) : excerpt limit (letters.take limit) = excerpt limit letters := by
  unfold excerpt
  by_cases short : letters.length < limit
  · have whole : letters.take limit = letters := List.take_of_length_le (by omega)
    rw [whole]
  · have full : ¬ (letters.take limit).length < limit := by
      rw [List.length_take]
      omega
    rw [if_neg short, if_neg full, List.take_take]
    congr 2
    omega

theorem excerpt_of_take (limit : Nat) (left right : PyText) (same : left.take limit = right.take limit) :
    excerpt limit left = excerpt limit right := by
  rw [← excerpt_take, same, excerpt_take]

section Claude

variable (python : Python)

def fileTools : List String := ["Edit", "MultiEdit", "Write", "NotebookEdit", "Read", "Glob", "LS", "NotebookRead"]

def todoCount (inp : PyDict) : Option Nat :=
  match (PyDict.get inp "todos").orElse (.list []) with
  | .list todos => some todos.length
  | _ => none

structure SameVisible (tool : PyValue) (left right : PyDict) : Prop where
  files : ClaudeCode.isOneOf tool fileTools = true →
    ∀ key ∈ ["file_path", "path", "pattern"], PyDict.get left key = PyDict.get right key
  bash : tool.isText "Bash" = true →
    (ClaudeCode.inputText python left "command").take 120 = (ClaudeCode.inputText python right "command").take 120
  grep : tool.isText "Grep" = true → ∀ key ∈ ["pattern", "path"], PyDict.get left key = PyDict.get right key
  fetch : tool.isText "WebFetch" = true → PyDict.get left "url" = PyDict.get right "url"
  search : tool.isText "WebSearch" = true → PyDict.get left "query" = PyDict.get right "query"
  todos : tool.isText "TodoWrite" = true → todoCount left = todoCount right
  task : tool.isText "Task" = true →
    ∀ key ∈ ["subagent_type", "description"], PyDict.get left key = PyDict.get right key

def toolOf (block : PyDict) : PyValue := (PyDict.get block "name").orElse (.str (pyText "?"))

inductive BlockLike : PyValue → PyValue → Prop where
  | same (block : PyValue) : BlockLike block block
  | toolUse (left right leftInput rightInput : PyDict)
      (called : (PyDict.get left "type").isText "tool_use" = true)
      (agree : AgreeBut "input" left right)
      (leftHeld : PyDict.get left "input" = .dict leftInput)
      (rightHeld : PyDict.get right "input" = .dict rightInput)
      (visible : SameVisible python (toolOf left) leftInput rightInput) : BlockLike (.dict left) (.dict right)
  | toolResult (left right : PyDict)
      (returned : (PyDict.get left "type").isText "tool_result" = true)
      (agree : AgreeBut "content" left right)
      (size : ClaudeCode.toolResultSize python (PyDict.get left "content") =
        ClaudeCode.toolResultSize python (PyDict.get right "content")) : BlockLike (.dict left) (.dict right)

inductive TurnLike : PyDict → PyDict → Prop where
  | same (event : PyDict) : TurnLike event event
  | turn (left right leftMessage rightMessage : PyDict) (leftBlocks rightBlocks : List PyValue)
      (agree : AgreeBut "message" left right)
      (leftSent : PyDict.get left "message" = .dict leftMessage)
      (rightSent : PyDict.get right "message" = .dict rightMessage)
      (framed : AgreeBut "content" leftMessage rightMessage)
      (leftFilled : PyDict.get leftMessage "content" = .list leftBlocks)
      (rightFilled : PyDict.get rightMessage "content" = .list rightBlocks)
      (blocks : List.Forall₂ (BlockLike python) leftBlocks rightBlocks) : TurnLike left right

theorem visible_path (tool : PyValue) (left right : PyDict) (visible : SameVisible python tool left right)
    (names : List String) (listed : ClaudeCode.isOneOf tool names = true) (known : names ⊆ fileTools) :
    PyDict.get left "file_path" = PyDict.get right "file_path" ∧ PyDict.get left "path" = PyDict.get right "path" ∧
      PyDict.get left "pattern" = PyDict.get right "pattern" := by
  have file : ClaudeCode.isOneOf tool fileTools = true := by
    obtain ⟨name, member, named⟩ := List.any_eq_true.mp listed
    exact List.any_eq_true.mpr ⟨name, known member, named⟩
  have same := visible.files file
  exact ⟨same "file_path" (by simp), same "path" (by simp), same "pattern" (by simp)⟩

theorem visible_text (tool : PyValue) (name key : String) (left right : PyDict)
    (same : tool.isText name = true → PyDict.get left key = PyDict.get right key) (named : tool.isText name = true) :
    ClaudeCode.inputText python left key = ClaudeCode.inputText python right key := by
  unfold ClaudeCode.inputText
  rw [same named]

theorem visible_todos {α : Type} (left right : PyDict) (same : todoCount left = todoCount right)
    (counted : Nat → α) (other : α) :
    (match (PyDict.get left "todos").orElse (.list []) with
      | .list todos => counted todos.length
      | _ => other) =
    (match (PyDict.get right "todos").orElse (.list []) with
      | .list todos => counted todos.length
      | _ => other) := by
  have counts (inp : PyDict) : (match (PyDict.get inp "todos").orElse (.list []) with
      | .list todos => counted todos.length
      | _ => other) = ((todoCount inp).map counted).getD other := by
    unfold todoCount
    cases (PyDict.get inp "todos").orElse (.list []) <;> rfl
  rw [counts, counts, same]

theorem summarize_visible (tool : PyValue) (left right : PyDict) (visible : SameVisible python tool left right) :
    ClaudeCode.summarizeToolInput python tool left = ClaudeCode.summarizeToolInput python tool right := by
  unfold ClaudeCode.summarizeToolInput
  by_cases read : ClaudeCode.isOneOf tool ClaudeCode.readTools = true
  · obtain ⟨filePath, path, pattern⟩ := visible_path python tool left right visible _ read (by decide)
    rw [if_pos read, if_pos read, filePath, path, pattern]
  · rw [if_neg read, if_neg read]
    by_cases bash : tool.isText "Bash" = true
    · rw [if_pos bash, if_pos bash]
      exact excerpt_of_take 120 _ _ (visible.bash bash)
    · rw [if_neg bash, if_neg bash]
      by_cases grep : tool.isText "Grep" = true
      · have pattern := visible_text python tool "Grep" "pattern" left right
          (fun named => visible.grep named "pattern" (by simp)) grep
        have path := visible_text python tool "Grep" "path" left right
          (fun named => visible.grep named "path" (by simp)) grep
        rw [if_pos grep, if_pos grep, pattern, path]
      · rw [if_neg grep, if_neg grep]
        by_cases fetch : tool.isText "WebFetch" = true
        · rw [if_pos fetch, if_pos fetch]
          exact visible_text python tool "WebFetch" "url" left right visible.fetch fetch
        · rw [if_neg fetch, if_neg fetch]
          by_cases search : tool.isText "WebSearch" = true
          · rw [if_pos search, if_pos search]
            exact visible_text python tool "WebSearch" "query" left right visible.search search
          · rw [if_neg search, if_neg search]
            by_cases todos : tool.isText "TodoWrite" = true
            · rw [if_pos todos, if_pos todos]
              exact visible_todos left right (visible.todos todos)
                (fun count => pyText (toString count) ++ pyText " todos") []
            · rw [if_neg todos, if_neg todos]

theorem safe_visible (tool : PyValue) (left right : PyDict) (visible : SameVisible python tool left right) :
    ClaudeCode.safeToolInput python tool left = ClaudeCode.safeToolInput python tool right := by
  unfold ClaudeCode.safeToolInput
  cases bearing : ClaudeCode.contentBearing tool with
  | error error => rfl
  | ok writes =>
      simp only [bind, Except.bind]
      cases writes with
      | true =>
          have listed : ClaudeCode.isOneOf tool ["Edit", "MultiEdit", "Write", "NotebookEdit"] = true := by
            unfold ClaudeCode.contentBearing at bearing
            split at bearing
            · cases bearing
            · cases bearing
            · exact Except.ok.inj bearing
          obtain ⟨filePath, path, _⟩ := visible_path python tool left right visible _ listed (by decide)
          rw [if_pos rfl, if_pos rfl, filePath, path]
      | false =>
          rw [if_neg Bool.false_ne_true, if_neg Bool.false_ne_true]
          by_cases read : ClaudeCode.isOneOf tool ClaudeCode.readTools = true
          · obtain ⟨filePath, path, pattern⟩ := visible_path python tool left right visible _ read (by decide)
            rw [if_pos read, if_pos read, filePath, path, pattern]
          · rw [if_neg read, if_neg read]
            by_cases bash : tool.isText "Bash" = true
            · rw [if_pos bash, if_pos bash, excerpt_of_take 120 _ _ (visible.bash bash)]
            · rw [if_neg bash, if_neg bash]
              by_cases grep : tool.isText "Grep" = true
              · have pattern := visible_text python tool "Grep" "pattern" left right
                  (fun named => visible.grep named "pattern" (by simp)) grep
                have path := visible_text python tool "Grep" "path" left right
                  (fun named => visible.grep named "path" (by simp)) grep
                rw [if_pos grep, if_pos grep, pattern, path]
              · rw [if_neg grep, if_neg grep]
                by_cases fetch : tool.isText "WebFetch" = true
                · rw [if_pos fetch, if_pos fetch,
                    visible_text python tool "WebFetch" "url" left right visible.fetch fetch]
                · rw [if_neg fetch, if_neg fetch]
                  by_cases search : tool.isText "WebSearch" = true
                  · rw [if_pos search, if_pos search,
                      visible_text python tool "WebSearch" "query" left right visible.search search]
                  · rw [if_neg search, if_neg search]
                    by_cases todos : tool.isText "TodoWrite" = true
                    · rw [if_pos todos, if_pos todos]
                      exact visible_todos left right (visible.todos todos)
                        (fun count => Except.ok [(pyText "todo_count", PyValue.int count)]) _
                    · rw [if_neg todos, if_neg todos]

theorem renderToolUse_visible (left right leftInput rightInput : PyDict) (agree : AgreeBut "input" left right)
    (leftHeld : PyDict.get left "input" = .dict leftInput) (rightHeld : PyDict.get right "input" = .dict rightInput)
    (visible : SameVisible python (toolOf left) leftInput rightInput) :
    ClaudeCode.renderToolUse python left = ClaudeCode.renderToolUse python right := by
  have name := agree_get "input" "name" left right agree (by decide)
  have id := agree_get "input" "id" left right agree (by decide)
  unfold toolOf at visible
  unfold ClaudeCode.renderToolUse
  rw [leftHeld, rightHeld, ← name, ← id]
  dsimp only
  generalize (PyDict.get left "name").orElse (.str (pyText "?")) = tool at visible ⊢
  by_cases task : tool.isText "Task" = true
  · rw [if_pos task, if_pos task, visible.task task "subagent_type" (by simp),
      visible.task task "description" (by simp)]
  · rw [if_neg task, if_neg task, summarize_visible python tool leftInput rightInput visible,
      safe_visible python tool leftInput rightInput visible]

theorem renderToolResult_alike (left right : PyDict) (agree : AgreeBut "content" left right)
    (size : ClaudeCode.toolResultSize python (PyDict.get left "content") =
      ClaudeCode.toolResultSize python (PyDict.get right "content")) :
    ClaudeCode.renderToolResult python left = ClaudeCode.renderToolResult python right := by
  have failed := agree_get "content" "is_error" left right agree (by decide)
  have use := agree_get "content" "tool_use_id" left right agree (by decide)
  unfold ClaudeCode.renderToolResult
  rw [size, failed, use]

theorem renderAssistant_alike (left right : List PyValue) (alike : List.Forall₂ (BlockLike python) left right) :
    ClaudeCode.renderAssistant python left = ClaudeCode.renderAssistant python right := by
  induction alike with
  | nil => rfl
  | @cons block other leftRest rightRest first rest ih =>
      cases first with
      | same =>
          cases block
          case dict fields => rw [ClaudeCode.renderAssistant, ClaudeCode.renderAssistant, ih]
          all_goals rfl
      | toolUse leftBlock rightBlock leftInput rightInput called agree leftHeld rightHeld visible =>
          have kind := agree_get "input" "type" leftBlock rightBlock agree (by decide)
          rw [ClaudeCode.renderAssistant, ClaudeCode.renderAssistant, ← kind, if_pos called, if_pos called,
            renderToolUse_visible python leftBlock rightBlock leftInput rightInput agree leftHeld rightHeld visible]
      | toolResult leftBlock rightBlock returned agree size =>
          have kind := agree_get "content" "type" leftBlock rightBlock agree (by decide)
          have noUse := Codex.isText_apart _ "tool_result" "tool_use" (by decide) returned
          have noText := Codex.isText_apart _ "tool_result" "text" (by decide) returned
          rw [ClaudeCode.renderAssistant, ClaudeCode.renderAssistant, ← kind, noUse, noText]
          exact ih

theorem renderUser_alike (left right : List PyValue) (alike : List.Forall₂ (BlockLike python) left right) :
    ClaudeCode.renderUser python left = ClaudeCode.renderUser python right := by
  induction alike with
  | nil => rfl
  | @cons block other leftRest rightRest first rest ih =>
      cases first with
      | same =>
          cases block
          case dict fields => rw [ClaudeCode.renderUser, ClaudeCode.renderUser, ih]
          all_goals rfl
      | toolUse leftBlock rightBlock leftInput rightInput called agree leftHeld rightHeld visible =>
          have kind := agree_get "input" "type" leftBlock rightBlock agree (by decide)
          have noResult := Codex.isText_apart _ "tool_use" "tool_result" (by decide) called
          rw [ClaudeCode.renderUser, ClaudeCode.renderUser, ← kind, noResult]
          exact ih
      | toolResult leftBlock rightBlock returned agree size =>
          have kind := agree_get "content" "type" leftBlock rightBlock agree (by decide)
          rw [ClaudeCode.renderUser, ClaudeCode.renderUser, ← kind, if_pos returned, if_pos returned,
            renderToolResult_alike python leftBlock rightBlock agree size]

theorem messageOf_sent (event message : PyDict) (sent : PyDict.get event "message" = .dict message) :
    ClaudeCode.messageOf event = .ok message := by
  unfold ClaudeCode.messageOf
  rw [sent]
  cases message <;> rfl

theorem contentOf_filled (message : PyDict) (blocks : List PyValue)
    (held : PyDict.get message "content" = .list blocks) : ClaudeCode.contentOf message = .ok blocks := by
  unfold ClaudeCode.contentOf
  rw [held]
  cases blocks <;> rfl

theorem claude_alike (left right : PyDict) (alike : TurnLike python left right) :
    ClaudeCode.renderActivity python left = ClaudeCode.renderActivity python right := by
  cases alike with
  | same => rfl
  | turn _ leftMessage rightMessage leftBlocks rightBlocks agree leftSent rightSent framed leftFilled rightFilled blocks =>
      have field (key : String) (apart : pyText key ≠ pyText "message") := agree_get "message" key left right agree apart
      unfold ClaudeCode.renderActivity
      rw [field "type" (by decide), field "subtype" (by decide), field "model" (by decide),
        field "session_id" (by decide), field "duration_ms" (by decide), field "num_turns" (by decide),
        messageOf_sent left leftMessage leftSent, messageOf_sent right rightMessage rightSent]
      simp only [bind, Except.bind, contentOf_filled leftMessage leftBlocks leftFilled,
        contentOf_filled rightMessage rightBlocks rightFilled,
        renderAssistant_alike python leftBlocks rightBlocks blocks, renderUser_alike python leftBlocks rightBlocks blocks]

end Claude

section Codex

structure Decodes (python : Python) (document : PyText → Option PyValue) : Prop where
  loaded : ∀ letters value, python.loads letters = .ok value → document letters = some value
  unread : ∀ letters, python.loads letters = .error .jsonDecodeError → document letters = none

structure ToldArguments where
  path : Option PyValue
  command : Option PyText
  query : Option PyValue
  url : Option PyValue

variable (python : Python) (document : PyText → Option PyValue)

def toldOf : Option PyValue → ToldArguments
  | some (.dict entries) =>
      { path := entries.lookup (pyText "path")
        command := (entries.lookup (pyText "command")).map fun value => (value.show python).take 120
        query := entries.lookup (pyText "query"), url := entries.lookup (pyText "url") }
  | _ => { path := none, command := none, query := none, url := none }

def argumentsText (item : PyDict) : Option PyText :=
  match (PyDict.get item "arguments").orElse (.str []) with
  | .str [] => none
  | .str letters => some letters
  | _ => none

inductive ItemLike : PyDict → PyDict → Prop where
  | call (left right : PyDict)
      (called : (PyDict.get left "type").isText "function_call" = true)
      (agree : AgreeBut "arguments" left right)
      (told : toldOf python ((argumentsText left).bind document) = toldOf python ((argumentsText right).bind document)) :
      ItemLike left right
  | output (left right : PyDict)
      (returned : (PyDict.get left "type").isText "function_call_output" = true)
      (agree : AgreeBut "output" left right)
      (size : encodedLength (((PyDict.get left "output").orElse (.str [])).show python) =
        encodedLength (((PyDict.get right "output").orElse (.str [])).show python)) : ItemLike left right

inductive EventLike : PyDict → PyDict → Prop where
  | same (event : PyDict) : EventLike event event
  | item (left right leftItem rightItem : PyDict)
      (agree : AgreeBut "item" left right)
      (leftHeld : PyDict.get left "item" = .dict leftItem)
      (rightHeld : PyDict.get right "item" = .dict rightItem)
      (items : ItemLike python document leftItem rightItem) : EventLike left right

def refused (letters : PyText) : Bool :=
  match python.loads letters with
  | .ok inp => !Codex.targetable inp
  | .error .jsonDecodeError => false
  | .error .recursionError | .error .valueError => true

def refuses (event : PyDict) : Bool :=
  (PyDict.get event "type").isText "item.created" &&
    match PyDict.get event "item" with
    | .dict item => (PyDict.get item "type").isText "function_call" && (argumentsText item).any (refused python)
    | _ => false

def targetTold (told : ToldArguments) : Option (String × PyText) :=
  match told.path with
  | some value => some ("path", value.show python)
  | none => match told.command with
    | some letters => some ("command_prefix", excerpt 120 letters)
    | none => match told.query with
      | some value => some ("query", value.show python)
      | none => told.url.map fun value => ("url", value.show python)

theorem toolTarget_told (inp : PyValue) (fine : Codex.targetable inp = true) :
    Codex.toolTarget python inp = .ok (targetTold python (toldOf python (some inp))) := by
  cases inp
  case dict entries =>
    simp only [Codex.toolTarget, Codex.member, bind, Except.bind, toldOf, targetTold]
    cases entries.lookup (pyText "path") with
    | some value => rfl
    | none =>
        cases entries.lookup (pyText "command") with
        | some value => simp only [Option.map_some, excerpt_take]
        | none =>
            cases entries.lookup (pyText "query") with
            | some value => rfl
            | none => cases entries.lookup (pyText "url") <;> rfl
  all_goals
    rw [← Codex.toolTarget_isOk python] at fine
    obtain ⟨target, found⟩ := (isOk_ok _).mp fine
    rw [found, Codex.toolTarget_nothing python _ (by intro entries same; cases same) target found]
    rfl

theorem arguments_told (decodes : Decodes python document) (item : PyDict)
    (fine : (argumentsText item).any (refused python) = false) :
    ∃ args, Codex.argumentsOf python item = .ok args ∧
      Codex.toolTarget python args = .ok (targetTold python (toldOf python ((argumentsText item).bind document))) := by
  have nothing : Codex.toolTarget python (.dict []) = .ok none := rfl
  unfold Codex.argumentsOf argumentsText at *
  cases held : (PyDict.get item "arguments").orElse (.str []) with
  | str letters =>
      cases letters with
      | nil => exact ⟨_, rfl, nothing⟩
      | cons letter rest =>
          simp only [held, Option.any_some, refused] at fine
          simp only [Option.bind_some]
          cases loaded : python.loads (letter :: rest) with
          | ok value =>
              simp only [loaded, Bool.not_eq_eq_eq_not, Bool.not_false] at fine
              rw [decodes.loaded _ value loaded]
              exact ⟨value, rfl, toolTarget_told python value fine⟩
          | error error =>
              cases error with
              | jsonDecodeError =>
                  rw [decodes.unread _ loaded]
                  exact ⟨_, rfl, nothing⟩
              | recursionError => simp [loaded] at fine
              | valueError => simp [loaded] at fine
  | _ => exact ⟨_, rfl, nothing⟩

theorem renderCall_refused (item : PyDict) (bad : (argumentsText item).any (refused python) = true) :
    (Codex.renderCall python item).toOption = none := by
  unfold argumentsText at bad
  unfold Codex.renderCall Codex.argumentsOf
  cases held : (PyDict.get item "arguments").orElse (.str []) with
  | str letters =>
      cases letters with
      | nil => simp [held] at bad
      | cons letter rest =>
          simp only [held, Option.any_some, refused] at bad
          cases loaded : python.loads (letter :: rest) with
          | ok value =>
              simp only [loaded, Bool.not_eq_eq_eq_not, Bool.not_true] at bad
              rw [← Codex.toolTarget_isOk python] at bad
              cases found : Codex.toolTarget python value with
              | ok target => simp [found, Except.isOk, Except.toBool] at bad
              | error error =>
                  simp [loaded, bind, Except.bind, Codex.summarizeToolInput, found, Except.map, Except.toOption]
          | error error =>
              cases error with
              | jsonDecodeError => simp [loaded] at bad
              | recursionError => simp [loaded, bind, Except.bind, Except.toOption]
              | valueError => simp [loaded, bind, Except.bind, Except.toOption]
  | _ => simp [held] at bad

theorem renderCall_isSome (decodes : Decodes python document) (item : PyDict)
    (fine : (argumentsText item).any (refused python) = false) :
    (Codex.renderCall python item).toOption.isSome = true := by
  obtain ⟨args, decoded, found⟩ := arguments_told python document decodes item fine
  unfold Codex.renderCall
  rw [decoded]
  simp only [bind, Except.bind, Codex.summarizeToolInput, Codex.safeToolInput, found, Except.map]
  rfl

theorem renderCall_alike (decodes : Decodes python document) (left right : PyDict)
    (agree : AgreeBut "arguments" left right)
    (told : toldOf python ((argumentsText left).bind document) = toldOf python ((argumentsText right).bind document))
    (leftFine : (argumentsText left).any (refused python) = false)
    (rightFine : (argumentsText right).any (refused python) = false) :
    Codex.renderCall python left = Codex.renderCall python right := by
  obtain ⟨leftArgs, leftDecoded, leftFound⟩ := arguments_told python document decodes left leftFine
  obtain ⟨rightArgs, rightDecoded, rightFound⟩ := arguments_told python document decodes right rightFine
  have name := agree_get "arguments" "name" left right agree (by decide)
  have call := agree_get "arguments" "call_id" left right agree (by decide)
  unfold Codex.renderCall
  rw [leftDecoded, rightDecoded, name, call]
  simp only [bind, Except.bind, Codex.summarizeToolInput, Codex.safeToolInput, leftFound, rightFound, told]

theorem call_exact (decodes : Decodes python document) (left right : PyDict) (agree : AgreeBut "arguments" left right)
    (told : toldOf python ((argumentsText left).bind document) = toldOf python ((argumentsText right).bind document)) :
    (Codex.renderCall python left).toOption = (Codex.renderCall python right).toOption ↔
      (argumentsText left).any (refused python) = (argumentsText right).any (refused python) := by
  cases leftBad : (argumentsText left).any (refused python) <;>
    cases rightBad : (argumentsText right).any (refused python)
  · rw [renderCall_alike python document decodes left right agree told leftBad rightBad]
    simp
  · have shown := renderCall_isSome python document decodes left leftBad
    rw [renderCall_refused python right rightBad]
    cases rendered : (Codex.renderCall python left).toOption <;> simp_all
  · have shown := renderCall_isSome python document decodes right rightBad
    rw [renderCall_refused python left leftBad]
    cases rendered : (Codex.renderCall python right).toOption <;> simp_all
  · rw [renderCall_refused python left leftBad, renderCall_refused python right rightBad]
    simp

theorem completed_alike (left right : PyDict) (items : ItemLike python document left right) :
    Codex.renderCompleted python left = Codex.renderCompleted python right := by
  unfold Codex.renderCompleted
  cases items with
  | call called agree told =>
      have field (key : String) (apart : pyText key ≠ pyText "arguments") :=
        agree_get "arguments" key left right agree apart
      have noMessage := Codex.isText_apart _ "function_call" "message" (by decide) called
      dsimp only
      rw [← field "type" (by decide), ← field "role" (by decide), Codex.isText_orElse _ "message" (by decide), noMessage,
        Codex.isText_orElse _ "function_call" (by decide), called]
      simp only [Bool.false_and, Bool.false_eq_true, if_false, if_true, Codex.finished, field "call_id" (by decide)]
  | output returned agree size =>
      have field (key : String) (apart : pyText key ≠ pyText "output") := agree_get "output" key left right agree apart
      have noMessage := Codex.isText_apart _ "function_call_output" "message" (by decide) returned
      have noCall := Codex.isText_apart _ "function_call_output" "function_call" (by decide) returned
      dsimp only
      rw [← field "type" (by decide), ← field "role" (by decide), Codex.isText_orElse _ "message" (by decide), noMessage,
        Codex.isText_orElse _ "function_call" (by decide), noCall]
      simp only [Bool.false_and, Bool.false_eq_true, if_false, Codex.finished, field "call_id" (by decide),
        Codex.outputSize, size]

theorem itemOf_held (event item : PyDict) (held : PyDict.get event "item" = .dict item) :
    Codex.itemOf event = .ok item := by
  unfold Codex.itemOf
  rw [held]
  cases item <;> rfl

theorem toOption_some {α : Type} (left right : Except PyError α) :
    (left.map some).toOption = (right.map some).toOption ↔ left.toOption = right.toOption := by
  cases left <;> cases right <;> simp [Except.map, Except.toOption]

theorem codex_exact (decodes : Decodes python document) (left right : PyDict)
    (alike : EventLike python document left right) :
    (Codex.renderActivity python left).toOption = (Codex.renderActivity python right).toOption ↔
      refuses python left = refuses python right := by
  cases alike with
  | same => simp
  | item _ leftItem rightItem agree leftHeld rightHeld items =>
      have field (key : String) (apart : pyText key ≠ pyText "item") := agree_get "item" key left right agree apart
      have kind := field "type" (by decide)
      have leftTaken := itemOf_held left leftItem leftHeld
      have rightTaken := itemOf_held right rightItem rightHeld
      have failure : Codex.failureText python left = Codex.failureText python right := by
        unfold Codex.failureText
        rw [field "error" (by decide)]
      unfold refuses Codex.renderActivity
      rw [leftHeld, rightHeld, ← kind, ← field "usage" (by decide), ← failure, leftTaken, rightTaken]
      dsimp only
      rw [Codex.isText_orElse _ "item.created" (by decide), Codex.isText_orElse _ "turn.started" (by decide),
        Codex.isText_orElse _ "item.completed" (by decide)]
      by_cases created : (PyDict.get left "type").isText "item.created" = true
      · have noStart := Codex.isText_apart _ "item.created" "turn.started" (by decide) created
        simp only [created, noStart, Bool.false_eq_true, if_false, if_true, Bool.true_and, bind, Except.bind]
        rw [Codex.isText_orElse _ "function_call" (by decide), Codex.isText_orElse _ "function_call" (by decide)]
        cases items with
        | call called agree told =>
            have type := agree_get "arguments" "type" leftItem rightItem agree (by decide)
            rw [← type, called, if_pos rfl, if_pos rfl, Bool.true_and, Bool.true_and, toOption_some]
            exact call_exact python document decodes leftItem rightItem agree told
        | output returned agree size =>
            have type := agree_get "output" "type" leftItem rightItem agree (by decide)
            have noCall := Codex.isText_apart _ "function_call_output" "function_call" (by decide) returned
            rw [← type, noCall]
            simp
      · rw [Bool.not_eq_true] at created
        simp only [created, Bool.false_and, Bool.false_eq_true, if_false, bind, Except.bind,
          completed_alike python document leftItem rightItem items]

end Codex

section Streams

variable (python : Python) (document : PyText → Option PyValue)

def Alike : Vendor → PyDict → PyDict → Prop
  | .claudeCode => TurnLike python
  | .codex => EventLike python document

structure SameFeed (render : PyDict → Except PyError (Option Rendered)) (left right : List PyDict) : Prop where
  live : left.map (fun event => (render event).toOption) = right.map fun event => (render event).toOption
  log : (renderActivityLog render 0 left).toOption = (renderActivityLog render 0 right).toOption

theorem renderActivityLog_toOption (render : PyDict → Except PyError (Option Rendered)) (seq : Nat) (event : PyDict)
    (rest : List PyDict) :
    (renderActivityLog render seq (event :: rest)).toOption = (render event).toOption.bind fun outcome =>
      match outcome with
      | none => (renderActivityLog render seq rest).toOption
      | some rendered => (activityEvent seq rendered).toOption.bind fun first =>
          (renderActivityLog render (seq + 1) rest).toOption.map fun others => first :: others := by
  rw [renderActivityLog]
  cases render event with
  | error error => rfl
  | ok outcome =>
      cases outcome with
      | none => rfl
      | some rendered =>
          simp only [bind, Except.bind, Except.toOption, Option.bind_some]
          cases activityEvent seq rendered with
          | error error => rfl
          | ok first => cases renderActivityLog render (seq + 1) rest <;> rfl

theorem log_same (render : PyDict → Except PyError (Option Rendered)) (left right : List PyDict) (seq : Nat)
    (live : left.map (fun event => (render event).toOption) = right.map fun event => (render event).toOption) :
    (renderActivityLog render seq left).toOption = (renderActivityLog render seq right).toOption := by
  induction left generalizing right seq with
  | nil =>
      rw [List.map_nil, eq_comm, List.map_eq_nil_iff] at live
      rw [live]
  | cons event rest ih =>
      cases right with
      | nil => cases live
      | cons other others =>
          rw [List.map_cons, List.map_cons, List.cons.injEq] at live
          rw [renderActivityLog_toOption, renderActivityLog_toOption, live.1]
          congr 1
          funext outcome
          cases outcome with
          | none => exact ih others seq live.2
          | some rendered =>
              dsimp only
              rw [ih others (seq + 1) live.2]

theorem sameFeed_iff (render : PyDict → Except PyError (Option Rendered)) (left right : List PyDict) :
    SameFeed render left right ↔
      left.map (fun event => (render event).toOption) = right.map fun event => (render event).toOption :=
  ⟨SameFeed.live, fun live => ⟨live, log_same render left right 0 live⟩⟩

theorem map_exact {α β γ : Type} (alike : α → α → Prop) (shown : α → β) (asked : α → γ)
    (exact : ∀ left right, alike left right → (shown left = shown right ↔ asked left = asked right))
    (left right : List α) (pairs : List.Forall₂ alike left right) :
    left.map shown = right.map shown ↔ left.map asked = right.map asked := by
  induction pairs with
  | nil => simp
  | cons first rest ih =>
      rw [List.map_cons, List.map_cons, List.map_cons, List.map_cons, List.cons.injEq, List.cons.injEq,
        exact _ _ first, ih]

theorem contents_stay (decodes : Decodes python document) (vendor : Vendor) (left right : List PyDict)
    (alike : List.Forall₂ (Alike python document vendor) left right) :
    SameFeed (vendor.renderActivity python) left right ↔
      (vendor = .codex → left.map (refuses python) = right.map (refuses python)) := by
  rw [sameFeed_iff]
  cases vendor with
  | claudeCode =>
      have same : left.map (fun event => (Vendor.claudeCode.renderActivity python event).toOption) =
          right.map fun event => (Vendor.claudeCode.renderActivity python event).toOption := by
        induction alike with
        | nil => rfl
        | cons first rest ih =>
            rw [List.map_cons, List.map_cons, ih]
            congr 2
            exact claude_alike python _ _ first
      exact iff_of_true same nofun
  | codex =>
      rw [forall_prop_of_true rfl]
      exact map_exact (EventLike python document) _ _ (codex_exact python document decodes) left right alike

end Streams

-- Calls that write a file, one of them with a number of more digits than `int` reads.
def callOf (arguments : PyText) : PyDict :=
  [(pyText "type", .str (pyText "item.created")),
    (pyText "item", .dict [(pyText "type", .str (pyText "function_call")), (pyText "name", .str (pyText "write")),
      (pyText "call_id", .str (pyText "c1")), (pyText "arguments", .str arguments)])]

def plainText : PyText := pyText "\x7b\"path\": \"a\"\x7d"

def secretText : PyText := pyText "\x7b\"path\": \"a\", \"content\": \"key\"\x7d"

def longText : PyText := pyText "\x7b\"path\": \"a\", \"content\": " ++ List.replicate 4301 49 ++ pyText "\x7d"

def plainValue : PyValue := .dict [(pyText "path", .str (pyText "a"))]

def secretValue : PyValue := .dict [(pyText "path", .str (pyText "a")), (pyText "content", .str (pyText "key"))]

def longValue : PyValue := .dict [(pyText "path", .str (pyText "a")), (pyText "content", .int ((10 ^ 4301 - 1) / 9))]

def sampleDocument (letters : PyText) : Option PyValue :=
  if letters.length = 4327 then some longValue
  else if letters = plainText then some plainValue
  else if letters = secretText then some secretValue
  else none

def samplePython : Python where
  loads letters :=
    if letters.length = 4327 then .error .valueError
    else match sampleDocument letters with
      | some value => .ok value
      | none => .error .jsonDecodeError
  printable _ := true

theorem longText_length : longText.length = 4327 := by
  simp only [longText, List.length_append, List.length_replicate]
  decide

theorem long_refused : samplePython.loads longText = .error .valueError := by
  unfold samplePython
  dsimp only
  rw [if_pos longText_length]

theorem long_document : sampleDocument longText = some longValue := by
  unfold sampleDocument
  rw [if_pos longText_length]

theorem sample_decodes : Decodes samplePython sampleDocument where
  loaded letters value loaded := by
    unfold samplePython at loaded
    dsimp only at loaded
    split at loaded
    · cases loaded
    · cases spelled : sampleDocument letters with
      | none => simp [spelled] at loaded
      | some other => simpa [spelled] using loaded
  unread letters unread := by
    unfold samplePython at unread
    dsimp only at unread
    split at unread
    · cases unread
    · cases spelled : sampleDocument letters with
      | none => rfl
      | some other => simp [spelled] at unread

theorem call_like (left right : PyText)
    (told : toldOf samplePython ((argumentsText [(pyText "arguments", .str left)]).bind sampleDocument) =
      toldOf samplePython ((argumentsText [(pyText "arguments", .str right)]).bind sampleDocument)) :
    EventLike samplePython sampleDocument (callOf left) (callOf right) := by
  refine .item _ _ _ _ ?_ rfl rfl (.call _ _ rfl ?_ told)
  · exact agree_last "item" [(pyText "type", .str (pyText "item.created"))] _ _
  · exact agree_last "arguments" [(pyText "type", .str (pyText "function_call")),
      (pyText "name", .str (pyText "write")), (pyText "call_id", .str (pyText "c1"))] _ _

theorem secret_like : EventLike samplePython sampleDocument (callOf plainText) (callOf secretText) :=
  call_like plainText secretText rfl

theorem long_like : EventLike samplePython sampleDocument (callOf plainText) (callOf longText) := by
  apply call_like plainText longText
  have asked : argumentsText [(pyText "arguments", .str longText)] = some longText := rfl
  rw [asked, Option.bind_some, long_document]
  rfl

theorem call_refuses (python : Python) (letter : Nat) (rest : PyText) :
    refuses python (callOf (letter :: rest)) = refused python (letter :: rest) := rfl

theorem long_refuses : refuses samplePython (callOf longText) = true := by
  have read := long_refused
  cases asked : longText with
  | nil => exact absurd (congrArg List.length asked) (by rw [longText_length]; decide)
  | cons letter rest =>
      rw [asked] at read
      rw [call_refuses, refused, read]

theorem secret_stays :
    SameFeed (Vendor.codex.renderActivity samplePython) [callOf plainText] [callOf secretText] :=
  (contents_stay samplePython sampleDocument sample_decodes .codex [callOf plainText] [callOf secretText]
    (.cons secret_like .nil)).mpr fun _ => by decide +kernel

theorem long_number_shows :
    Decodes samplePython sampleDocument ∧
      List.Forall₂ (Alike samplePython sampleDocument .codex) [callOf plainText] [callOf longText] ∧
      ¬ SameFeed (Vendor.codex.renderActivity samplePython) [callOf plainText] [callOf longText] := by
  refine ⟨sample_decodes, .cons long_like .nil, fun same => ?_⟩
  have live := (List.cons.inj same.live).1
  have refusals := (codex_exact samplePython sampleDocument sample_decodes _ _ long_like).mp live
  rw [long_refuses] at refusals
  have read : refuses samplePython (callOf plainText) = false := by decide +kernel
  rw [read] at refusals
  cases refusals

end Yaaos.CodingAgent.Boundary
