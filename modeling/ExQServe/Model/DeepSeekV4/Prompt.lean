import ExQServe.Core.Items
import ExQServe.Model.DeepSeekV4.Blocks

/-! # The prompt

How `model/deepseek_v4.py` groups a history into turns and renders them. Of a request only its
items are kept. -/

namespace ExQServe.Model.DeepSeekV4

/-! ## Reasoning -/

inductive ReasoningMode
  | default
  | enabled
  | disabled
deriving DecidableEq, Repr

inductive ReasoningEffort
  | low
  | medium
  | high
  | xhigh
  | maximum
deriving DecidableEq, Repr

structure ReasoningPolicy where
  mode : ReasoningMode
  effort : Option ReasoningEffort
deriving DecidableEq, Repr

def ReasoningPolicy.thinking (policy : ReasoningPolicy) : Bool := policy.mode != .disabled

def highEffortPrefix : PyStr :=
  py "Reasoning Effort: Absolute maximum with no shortcuts permitted.\n" ++
  py "You MUST be very thorough in your thinking and comprehensively decompose the problem to " ++
  py "resolve the root cause, rigorously stress-testing your logic against all potential paths, " ++
  py "edge cases, and adversarial scenarios.\n" ++
  py "Explicitly write out your entire deliberation process, documenting every intermediate step, " ++
  py "considered alternative, and rejected hypothesis to ensure absolutely no assumption is left " ++
  py "unchecked.\n\n"

def maxEffortPrefix : PyStr :=
  py "Reasoning Effort: Beyond maximum — exhaustive, relentless, and uncompromising.\n" ++
  py "You MUST reason with the utmost depth and rigor, leaving absolutely nothing to chance: " ++
  py "exhaustively decompose the problem into its most fundamental components, trace every causal " ++
  py "chain to its root, and resolve the underlying cause rather than any surface symptom.\n" ++
  py "Do not stop reasoning until you have independently verified the solution from multiple angles " ++
  py "and are certain that no assumption remains unchecked and no error remains undiscovered.\n\n"

def effortPrefix (policy : ReasoningPolicy) : PyStr :=
  match policy.mode, policy.effort with
  | .disabled, _ => []
  | _, none | _, some .medium | _, some .high | _, some .xhigh => highEffortPrefix
  | _, some .maximum => maxEffortPrefix
  | _, some .low => []

/-! ## Tools -/

structure TemplateTool where
  name : PyStr
  description : Option PyStr
  parametersJson : PyStr
deriving DecidableEq

/-- A line of `_tool_schema_lines`; `none` where it raises. -/
def toolSchemaLine (tool : TemplateTool) : Option PyStr :=
  match parseJsonStrict tool.parametersJson with
  | some (.dict parameters) =>
      let description := match tool.description with
        | none => []
        | some description => [(py "description", .str description)]
      some (jsonDump (.dict ((py "name", .str tool.name) :: (description ++
        [(py "parameters", .dict parameters)]))))
  | _ => none

def toolSchemaLines (tools : List TemplateTool) : Option PyStr :=
  (tools.mapM toolSchemaLine).map joinLines

def toolInstructionsFront : PyStr := py "## Tools

You have access to a set of tools to help answer the user's question. You can invoke tools by writing a \"<｜DSML｜tool_calls>\" block like the following:

<｜DSML｜tool_calls>
<｜DSML｜invoke name=\"$TOOL_NAME\">
<｜DSML｜parameter name=\"$PARAMETER_NAME\" string=\"true|false\">$PARAMETER_VALUE</｜DSML｜parameter>
...
</｜DSML｜invoke>
<｜DSML｜invoke name=\"$TOOL_NAME2\">
...
</｜DSML｜invoke>
</｜DSML｜tool_calls>

String parameters should be specified as is and set `string=\"true\"`. For all other types (numbers, booleans, arrays, objects), pass the value in JSON format and set `string=\"false\"`.

If thinking_mode is enabled (triggered by <think>), you MUST output your complete reasoning inside <think>...</think> BEFORE any tool calls or final response.

Otherwise, output directly after </think> with tool calls or final response.

### Available Tool Schemas

"

def toolInstructionsBack : PyStr := py "

You MUST strictly follow the above defined tool name and parameter schemas to invoke tool calls.\n"

def toolInstructions (schemas : PyStr) : PyStr :=
  toolInstructionsFront ++ schemas ++ toolInstructionsBack

/-! ## Turns -/

inductive TurnRole
  | system
  | user
  | assistant
deriving DecidableEq, Repr

structure Turn where
  role : TurnRole
  content : PyStr
  reasoning : Option PyStr
  calls : List Call
  toolResultUser : Bool
deriving DecidableEq

namespace Turn

def system (content : PyStr) : Turn := ⟨.system, content, none, [], false⟩

def user (content : PyStr) (toolResultUser : Bool) : Turn :=
  ⟨.user, content, none, [], toolResultUser⟩

def assistant (content : PyStr) (reasoning : Option PyStr) (calls : List Call) : Turn :=
  ⟨.assistant, content, reasoning, calls, false⟩

end Turn

def toolResultOpen : PyStr := py "<tool_result>"

def toolResultClose : PyStr := py "</tool_result>"

def joinParagraphs (parts : List PyStr) : PyStr := (py "\n\n").intercalate parts

structure TurnState where
  turns : List Turn
  reasoningParts : List PyStr
  assistantText : Option PyStr
  assistantCalls : List Call
  /-- The name and the index of every call so far. -/
  knownCalls : Dict PyStr (PyStr × Nat)
  pendingResults : List ToolResultItem

inductive TurnFailure
  | valueError (message : Message)
  | typeError (message : Message)
deriving DecidableEq

namespace TurnState

def appendUser (content : PyStr) (state : TurnState) : TurnState :=
  match state.turns.getLast? with
  | some previous =>
      if previous.role = .user ∧ previous.toolResultUser = true then
        { state with turns := state.turns.dropLast ++
            [.user (previous.content ++ py "\n\n" ++ content) true] }
      else
        { state with turns := state.turns ++ [.user content false] }
  | none => { state with turns := state.turns ++ [.user content false] }

def flushAssistant (state : TurnState) : TurnState :=
  if state.reasoningParts = [] ∧ state.assistantText = none ∧ state.assistantCalls = [] then state
  else
    { state with
      turns := state.turns ++ [.assistant (state.assistantText.getD [])
        (if state.reasoningParts = [] then none else some state.reasoningParts.flatten)
        state.assistantCalls]
      reasoningParts := []
      assistantText := none
      assistantCalls := [] }

def callIndex (state : TurnState) (result : ToolResultItem) : Nat :=
  match state.knownCalls.get? result.callId with
  | some (_, index) => index
  | none => 0

def flushResults (state : TurnState) : TurnState :=
  if state.pendingResults = [] then state
  else
    let ordered := state.pendingResults.insertionSort fun first second =>
      state.callIndex first ≤ state.callIndex second
    { state with
      turns := state.turns ++ [.user (joinParagraphs (ordered.map fun result =>
        toolResultOpen ++ result.text ++ toolResultClose)) true]
      pendingResults := [] }

def addReasoning (item : ReasoningItem) (state : TurnState) : Except TurnFailure TurnState :=
  let state :=
    if item.startsNewAssistantSegment ∧ (∃ text ∈ state.assistantText, NonBlank text) ∧
        state.assistantCalls = [] then state.flushAssistant
    else state
  if state.assistantText ≠ none ∨ state.assistantCalls ≠ [] then
    .error (.valueError (plain "assistant reasoning must precede assistant text and tool calls"))
  else
    .ok { state with reasoningParts := state.reasoningParts ++ [item.text] }

def addCall (item : ToolCallItem) (state : TurnState) : Except TurnFailure TurnState :=
  if state.knownCalls.get? item.callId ≠ none then
    .error (.valueError [.text "duplicate tool call id in history: ", .repr item.callId])
  else if item.index ≠ state.assistantCalls.length then
    .error (.valueError (plain "tool call index must match order within the assistant turn"))
  else
    .ok { state with
      knownCalls := state.knownCalls.set item.callId (item.name, item.index)
      assistantCalls := state.assistantCalls ++ [⟨item.name, item.argumentsJson⟩] }

def addMessage (item : MessageItem) (state : TurnState) : Except TurnFailure TurnState :=
  match item.role with
  | .system | .developer =>
      .error (.valueError
        (plain "DeepSeek-V4 system/developer messages must appear at the beginning"))
  | .user => .ok (state.flushAssistant.appendUser item.text)
  | .assistant =>
      .ok { state with
        assistantText := some (match state.assistantText with
          | none => item.text
          | some text => text ++ item.text) }

def addResult (item : ToolResultItem) (state : TurnState) : Except TurnFailure TurnState :=
  let state := state.flushAssistant
  if state.knownCalls.get? item.callId = none then
    .error (.valueError
      [.text "tool result references unknown tool call: ", .repr item.callId])
  else
    .ok { state with pendingResults := state.pendingResults ++ [item] }

def step (state : TurnState) : CanonicalItem → Except TurnFailure TurnState
  | .message item => state.flushResults.addMessage item
  | .multimodalMessage _ | .multimodalToolResult _ =>
      .error (.typeError
        (plain "DeepSeek-V4 text architecture does not support multimodal input"))
  | .reasoning item => state.flushResults.addReasoning item
  | .toolCall item => state.flushResults.addCall item
  | .toolResult item => state.addResult item

def initial (leading : List PyStr) : TurnState where
  turns := if leading = [] then [] else [.system (joinParagraphs leading)]
  reasoningParts := []
  assistantText := none
  assistantCalls := []
  knownCalls := .empty
  pendingResults := []

def finish (state : TurnState) : List Turn := state.flushResults.flushAssistant.turns

end TurnState

def splitInstructions : List CanonicalItem → List PyStr × List CanonicalItem
  | .message item :: items =>
      if item.role = .system ∨ item.role = .developer then
        (item.text :: (splitInstructions items).1, (splitInstructions items).2)
      else
        ([], .message item :: items)
  | items => ([], items)

def canonicalTurns (items : List CanonicalItem) : Except TurnFailure (List Turn) :=
  ((splitInstructions items).2.foldlM TurnState.step (.initial (splitInstructions items).1)).map
    TurnState.finish

/-! ## Rendering -/

def bos : PyStr := py "<｜begin▁of▁sentence｜>"

def userMarker : PyStr := py "<｜User｜>"

def assistantMarker : PyStr := py "<｜Assistant｜>"

def lastUser (turns : List Turn) : Int :=
  turns.zipIdx.foldl (fun last entry => if entry.1.role = .user then entry.2 else last) (-1)

/-- What `_render_prompt` adds for a turn in front of `next`; `none` where it raises. -/
def renderTurn (tools : List TemplateTool) (reasoning : ReasoningPolicy) (last : Int) (index : Nat)
    (turn : Turn) (next : Option Turn) : Option PyStr :=
  match turn.role with
  | .system =>
      if tools = [] then some turn.content
      else (toolSchemaLines tools).map fun schemas =>
        turn.content ++ py "\n\n" ++ toolInstructions schemas
  | .user =>
      if (∃ following ∈ next, following.role = .assistant) ∨ next = none then
        some (userMarker ++ turn.content ++ assistantMarker ++
          if reasoning.thinking ∧ (tools ≠ [] ∨ last ≤ index) then thinkOpen else thinkClose)
      else some (userMarker ++ turn.content)
  | .assistant =>
      let thought := if reasoning.thinking ∧ (tools ≠ [] ∨ last < index) then
        turn.reasoning.getD [] ++ thinkClose else []
      let calls := if turn.calls = [] then some [] else encodeCalls turn.calls
      calls.map fun calls => thought ++ turn.content ++ calls ++ eos

def renderTurns (tools : List TemplateTool) (reasoning : ReasoningPolicy) (last : Int) :
    Nat → List Turn → Option PyStr
  | _, [] => some []
  | index, turn :: later => do
      let here ← renderTurn tools reasoning last index turn later.head?
      let rest ← renderTurns tools reasoning last (index + 1) later
      some (here ++ rest)

def withSystem (tools : List TemplateTool) (turns : List Turn) : List Turn :=
  if tools ≠ [] ∧ ∀ first ∈ turns.head?, first.role ≠ .system then .system [] :: turns else turns

def renderPrompt (turns : List Turn) (tools : List TemplateTool) (reasoning : ReasoningPolicy) :
    Option PyStr :=
  if withSystem tools turns = [] then none
  else (renderTurns tools reasoning (lastUser (withSystem tools turns)) 0
      (withSystem tools turns)).map fun rendered => bos ++ effortPrefix reasoning ++ rendered

end ExQServe.Model.DeepSeekV4
