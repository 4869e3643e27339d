import ExQServe.Core.CanonicalStream
import ExQServe.Foundation.Dict
import ExQServe.Protocol.OpenAICommon

/-! # Responses output

The model of `protocol/openai/responses_output.py`. The hex digits that `uuid4` draws for the
items are a parameter, by the number of items before, and the checks of the two constructors
are left out. -/

namespace ExQServe.OpenAI

open ExQServe.Model ExQServe.Canonical

/-! ## Items -/

inductive ItemBody
  | reasoning (text : Option PyStr)
  | message (text : Option PyStr)
  | functionCall (callId name arguments : PyStr)
deriving DecidableEq

structure OutputItem where
  id : PyStr
  completed : Bool
  body : ItemBody
deriving DecidableEq

def reasoningPart (text : PyStr) : JsonObject :=
  [(py "type", .str (py "reasoning_text")), (py "text", .str text)]

def messagePart (text : PyStr) : JsonObject :=
  [(py "type", .str (py "output_text")), (py "text", .str text), (py "annotations", .list [])]

def contentPart : SegmentKind → PyStr → JsonObject
  | .reasoning => reasoningPart
  | .message => messagePart

def itemContent (part : PyStr → JsonObject) : Option PyStr → JsonValue
  | none => .list []
  | some text => .list [.dict (part text)]

def OutputItem.toJson (item : OutputItem) : JsonObject :=
  let status := .str (if item.completed then py "completed" else py "in_progress")
  match item.body with
  | .reasoning text =>
      [(py "id", .str item.id), (py "type", .str (py "reasoning")), (py "status", status),
        (py "summary", .list []), (py "content", itemContent reasoningPart text)]
  | .message text =>
      [(py "id", .str item.id), (py "type", .str (py "message")), (py "status", status),
        (py "role", .str (py "assistant")), (py "content", itemContent messagePart text)]
  | .functionCall callId name arguments =>
      [(py "id", .str item.id), (py "type", .str (py "function_call")), (py "status", status),
        (py "call_id", .str callId), (py "name", .str name), (py "arguments", .str arguments)]

inductive ItemKind
  | segment (channel : SegmentKind)
  | functionCall (callId name : PyStr)
deriving DecidableEq

/-- `_OutputState`, without its place, which is its output index. -/
structure OutputState where
  itemId : PyStr
  kind : ItemKind
  textParts : List PyStr
  argumentParts : List PyStr
  finalItem : Option OutputItem
deriving DecidableEq

/-- `_ResponseState`; a state is shared by its place. -/
structure ResponseState where
  states : List OutputState
  reasoning : Option Nat
  message : Option Nat
  tools : Dict PyStr Nat

def itemPrefix : ItemKind → PyStr
  | .segment .reasoning => py "rs_"
  | .segment .message => py "msg_"
  | .functionCall _ _ => py "fc_"

def segmentBody : SegmentKind → Option PyStr → ItemBody
  | .reasoning => .reasoning
  | .message => .message

namespace ResponseState

def initial : ResponseState := ⟨[], none, none, .empty⟩

variable (identity : Nat → PyStr)

/-- `_new`: the state with the new item, whose index is the number of items before. -/
def new (state : ResponseState) (kind : ItemKind) : ResponseState :=
  { state with states := state.states ++
      [⟨itemPrefix kind ++ identity state.states.length, kind, [], [], none⟩] }

def current (state : ResponseState) : SegmentKind → Option Nat
  | .reasoning => state.reasoning
  | .message => state.message

def setCurrent (state : ResponseState) (position : Option Nat) : SegmentKind → ResponseState
  | .reasoning => { state with reasoning := position }
  | .message => { state with message := position }

def startSegment (state : ResponseState) (channel : SegmentKind) : ResponseState × Nat :=
  match state.current channel with
  | some position => (state, position)
  | none =>
      ((state.new identity (.segment channel)).setCurrent (some state.states.length) channel,
        state.states.length)

def startTool (state : ResponseState) (callId name : PyStr) : ResponseState × Nat :=
  match state.tools.get? callId with
  | some position => (state, position)
  | none =>
      ({ state.new identity (.functionCall callId name) with
          tools := state.tools.set callId state.states.length }, state.states.length)

def modify (state : ResponseState) (position : Nat) (change : OutputState → OutputState) :
    ResponseState := { state with states := state.states.modify position change }

def itemId (state : ResponseState) (position : Nat) : PyStr :=
  match state.states[position]? with
  | some item => item.itemId
  | none => []

/-- `finish_reasoning` and `finish_message` -/
def finishSegment (state : ResponseState) (channel : SegmentKind) (text : PyStr) :
    ResponseState × Nat :=
  let (started, position) := state.startSegment identity channel
  ((started.modify position fun item =>
    { item with
      textParts := [text]
      finalItem := some ⟨item.itemId, true, segmentBody channel (some text)⟩ }).setCurrent none
        channel, position)

def finishTool (state : ResponseState) (call : ToolCallItem) : ResponseState × Nat :=
  let (started, position) := state.startTool identity call.callId call.name
  (started.modify position fun item =>
    { item with
      argumentParts := [call.argumentsJson]
      finalItem := some ⟨item.itemId, true,
        .functionCall call.callId call.name call.argumentsJson⟩ }, position)

/-- `start_…().text_parts.append(text)` -/
def addText (state : ResponseState) (channel : SegmentKind) (text : PyStr) : ResponseState × Nat :=
  let (started, position) := state.startSegment identity channel
  (started.modify position fun item => { item with textParts := item.textParts ++ [text] },
    position)

def addArguments (state : ResponseState) (position : Nat) (delta : PyStr) : ResponseState :=
  state.modify position fun item => { item with argumentParts := item.argumentParts ++ [delta] }

def output (state : ResponseState) : List OutputItem := state.states.filterMap (·.finalItem)

end ResponseState

/-! ## Responses -/

structure ResponseConfig where
  responseId : PyStr
  createdAt : Nat
  model : PyStr
  parallelToolCalls : Bool
  toolChoice : JsonValue
  previousResponseId : Option PyStr
  store : Bool
  identity : Nat → PyStr

structure ResponseObject where
  status : PyStr
  output : List OutputItem
  usage : Option TokenUsage
  error : Option JsonObject
  incompleteDetails : Option PyStr

/-- `build_response_object` -/
def ResponseObject.toJson (config : ResponseConfig) (response : ResponseObject) : JsonObject :=
  [(py "id", .str config.responseId), (py "object", .str (py "response")),
    (py "created_at", .int config.createdAt), (py "status", .str response.status),
    (py "model", .str config.model),
    (py "output", .list (response.output.map fun item => .dict item.toJson)),
    (py "parallel_tool_calls", .bool config.parallelToolCalls),
    (py "tool_choice", config.toolChoice),
    (py "previous_response_id", match config.previousResponseId with
      | none => .null
      | some previous => .str previous),
    (py "store", .bool config.store),
    (py "error", match response.error with
      | none => .null
      | some error => .dict error),
    (py "incomplete_details", match response.incompleteDetails with
      | none => .null
      | some reason => .dict [(py "reason", .str reason)])] ++
    match response.usage with
    | none => []
    | some usage => [(py "usage", .dict (responsesUsage usage))]

inductive ResponseEvent
  | created
  | completed
  | incomplete
  | failed
deriving DecidableEq, Repr

/-- An event of the stream without its sequence number. -/
inductive StreamPayload
  | response (event : ResponseEvent) (response : ResponseObject)
  | itemAdded (outputIndex : Nat) (item : OutputItem)
  | partAdded (itemId : PyStr) (outputIndex : Nat) (channel : SegmentKind)
  | textDelta (channel : SegmentKind) (itemId : PyStr) (outputIndex : Nat) (delta : PyStr)
  | textDone (channel : SegmentKind) (itemId : PyStr) (outputIndex : Nat) (text : PyStr)
  | partDone (channel : SegmentKind) (itemId : PyStr) (outputIndex : Nat) (text : PyStr)
  | argumentsDelta (itemId : PyStr) (outputIndex : Nat) (delta : PyStr)
  | argumentsDone (itemId : PyStr) (outputIndex : Nat) (arguments : PyStr)
  | itemDone (outputIndex : Nat) (item : Option OutputItem)

namespace StreamPayload

def textEvent : SegmentKind → String → PyStr
  | .reasoning, suffix => py ("response.reasoning_text." ++ suffix)
  | .message, suffix => py ("response.output_text." ++ suffix)

def members (config : ResponseConfig) : StreamPayload → PyStr × JsonObject
  | .response event made =>
      (match event with
        | .created => py "response.created"
        | .completed => py "response.completed"
        | .incomplete => py "response.incomplete"
        | .failed => py "response.failed",
        [(py "response", .dict (made.toJson config))])
  | .itemAdded outputIndex item =>
      (py "response.output_item.added",
        [(py "output_index", .int outputIndex), (py "item", .dict item.toJson)])
  | .partAdded itemId outputIndex channel =>
      (py "response.content_part.added",
        [(py "item_id", .str itemId), (py "output_index", .int outputIndex),
          (py "content_index", .int 0), (py "part", .dict (contentPart channel []))])
  | .textDelta channel itemId outputIndex delta =>
      (textEvent channel "delta",
        [(py "item_id", .str itemId), (py "output_index", .int outputIndex),
          (py "content_index", .int 0), (py "delta", .str delta)])
  | .textDone channel itemId outputIndex text =>
      (textEvent channel "done",
        [(py "item_id", .str itemId), (py "output_index", .int outputIndex),
          (py "content_index", .int 0), (py "text", .str text)])
  | .partDone channel itemId outputIndex text =>
      (py "response.content_part.done",
        [(py "item_id", .str itemId), (py "output_index", .int outputIndex),
          (py "content_index", .int 0), (py "part", .dict (contentPart channel text))])
  | .argumentsDelta itemId outputIndex delta =>
      (py "response.function_call_arguments.delta",
        [(py "item_id", .str itemId), (py "output_index", .int outputIndex),
          (py "delta", .str delta)])
  | .argumentsDone itemId outputIndex arguments =>
      (py "response.function_call_arguments.done",
        [(py "item_id", .str itemId), (py "output_index", .int outputIndex),
          (py "arguments", .str arguments)])
  | .itemDone outputIndex item =>
      (py "response.output_item.done",
        [(py "output_index", .int outputIndex), (py "item", match item with
          | none => .null
          | some item => .dict item.toJson)])

def outputIndex? : StreamPayload → Option Nat
  | .response _ _ => none
  | .itemAdded outputIndex _ => some outputIndex
  | .partAdded _ outputIndex _ => some outputIndex
  | .textDelta _ _ outputIndex _ => some outputIndex
  | .textDone _ _ outputIndex _ => some outputIndex
  | .partDone _ _ outputIndex _ => some outputIndex
  | .argumentsDelta _ outputIndex _ => some outputIndex
  | .argumentsDone _ outputIndex _ => some outputIndex
  | .itemDone outputIndex _ => some outputIndex

def isTerminal : StreamPayload → Bool
  | .response .created _ => false
  | .response _ _ => true
  | _ => false

end StreamPayload

structure StreamEvent where
  sequenceNumber : Nat
  payload : StreamPayload

def StreamEvent.toJson (config : ResponseConfig) (event : StreamEvent) : JsonObject :=
  let members := event.payload.members config
  (py "type", .str members.1) :: (py "sequence_number", .int event.sequenceNumber) :: members.2

/-! ## The stream -/

structure ResponsesStreamSerializer where
  state : ResponseState
  usage : Option TokenUsage
  sequence : Nat
  terminal : Bool

namespace ResponsesStreamSerializer

def new : ResponsesStreamSerializer := ⟨.initial, none, 0, false⟩

/-- The events of one call with their sequence numbers: one `_emit` each. -/
def emit (serializer : ResponsesStreamSerializer) (payloads : List StreamPayload) :
    ResponsesStreamSerializer × List StreamEvent :=
  ({ serializer with sequence := serializer.sequence + payloads.length },
    payloads.mapIdx fun index payload => ⟨serializer.sequence + index + 1, payload⟩)

def currentResponse (serializer : ResponsesStreamSerializer) (status : PyStr)
    (error : Option JsonObject) (incompleteDetails : Option PyStr) : ResponseObject :=
  ⟨status, serializer.state.output, serializer.usage, error, incompleteDetails⟩

def moved (serializer : ResponsesStreamSerializer) (state : ResponseState)
    (payloads : List StreamPayload) : ResponsesStreamSerializer × List StreamEvent :=
  { serializer with state := state }.emit payloads

def openedSegment (channel : SegmentKind) (itemId : PyStr) : OutputItem :=
  ⟨itemId, false, segmentBody channel none⟩

def finalItem (state : ResponseState) (position : Nat) : Option OutputItem :=
  (state.states[position]?).bind (·.finalItem)

variable (config : ResponseConfig)

def startSegment (serializer : ResponsesStreamSerializer) (channel : SegmentKind) :
    ResponsesStreamSerializer × List StreamEvent :=
  let (state, position) := serializer.state.startSegment config.identity channel
  serializer.moved state
    [.itemAdded position (openedSegment channel (state.itemId position)),
      .partAdded (state.itemId position) position channel]

def segmentDelta (serializer : ResponsesStreamSerializer) (channel : SegmentKind) (text : PyStr) :
    ResponsesStreamSerializer × List StreamEvent :=
  let (state, position) := serializer.state.addText config.identity channel text
  serializer.moved state [.textDelta channel (state.itemId position) position text]

def finishSegment (serializer : ResponsesStreamSerializer) (channel : SegmentKind) (text : PyStr) :
    ResponsesStreamSerializer × List StreamEvent :=
  let (state, position) := serializer.state.finishSegment config.identity channel text
  serializer.moved state
    [.textDone channel (state.itemId position) position text,
      .partDone channel (state.itemId position) position text,
      .itemDone position (finalItem state position)]

def startTool (serializer : ResponsesStreamSerializer) (callId name : PyStr) :
    ResponsesStreamSerializer × List StreamEvent :=
  let (state, position) := serializer.state.startTool config.identity callId name
  serializer.moved state
    [.itemAdded position ⟨state.itemId position, false, .functionCall callId name []⟩]

def toolDelta (serializer : ResponsesStreamSerializer) (callId delta : PyStr) :
    ResponsesStreamSerializer × List StreamEvent :=
  match serializer.state.tools.get? callId with
  | none => (serializer, [])
  | some position =>
      let state := serializer.state.addArguments position delta
      serializer.moved state [.argumentsDelta (state.itemId position) position delta]

def finishTool (serializer : ResponsesStreamSerializer) (call : ToolCallItem) :
    ResponsesStreamSerializer × List StreamEvent :=
  let (state, position) := serializer.state.finishTool config.identity call
  serializer.moved state
    [.argumentsDone (state.itemId position) position call.argumentsJson,
      .itemDone position (finalItem state position)]

def complete (serializer : ResponsesStreamSerializer) (reason : CompletionReason)
    (usage : Option TokenUsage) : ResponsesStreamSerializer × List StreamEvent :=
  let ended := { serializer with terminal := true, usage := usage.or serializer.usage }
  if reason = .length then
    ended.emit [.response .incomplete
      (ended.currentResponse (py "incomplete") none (some (py "max_output_tokens")))]
  else
    ended.emit [.response .completed (ended.currentResponse (py "completed") none none)]

/-- `feed` of a serializer without its terminal event; `none` where the mapped error's
constructor raises. -/
def feedOpen (serializer : ResponsesStreamSerializer) :
    ServingEvent → Option (ResponsesStreamSerializer × List StreamEvent)
  | .generationStarted _ =>
      some (serializer.emit
        [.response .created (serializer.currentResponse (py "in_progress") none none)])
  | .semantic (.reasoningStarted _) => some (serializer.startSegment config .reasoning)
  | .semantic (.reasoningDelta _ text) => some (serializer.segmentDelta config .reasoning text)
  | .semantic (.reasoningCompleted _ text) =>
      some (serializer.finishSegment config .reasoning text)
  | .semantic (.textStarted _) => some (serializer.startSegment config .message)
  | .semantic (.textDelta _ text) => some (serializer.segmentDelta config .message text)
  | .semantic (.textCompleted _ text) => some (serializer.finishSegment config .message text)
  | .semantic (.toolCallStarted _ callId name _) => some (serializer.startTool config callId name)
  | .semantic (.toolCallArgumentsDelta _ callId delta _) => some (serializer.toolDelta callId delta)
  | .semantic (.toolCallCompleted _ call) => some (serializer.finishTool config call)
  | .usageUpdated _ usage => some ({ serializer with usage := some usage }, [])
  | .generationCompleted _ reason usage _ => some (serializer.complete reason usage)
  | .generationFailed _ error =>
      let ended := { serializer with terminal := true }
      (mapCanonicalError error).map fun mapped =>
        ended.emit [.response .failed
          (ended.currentResponse (py "failed") (some (mapped.toErrorObject false)) none)]
  | .generationCancelled _ =>
      let ended := { serializer with terminal := true }
      some (ended.emit [.response .incomplete
        (ended.currentResponse (py "cancelled") none none)])
  | .timingUpdated _ _ => some (serializer, [])

def feed (serializer : ResponsesStreamSerializer) (event : ServingEvent) :
    Option (ResponsesStreamSerializer × List StreamEvent) :=
  if serializer.terminal then some (serializer, []) else serializer.feedOpen config event

def feedAll (serializer : ResponsesStreamSerializer) :
    List ServingEvent → Option (ResponsesStreamSerializer × List StreamEvent)
  | [] => some (serializer, [])
  | event :: events => do
      let (next, emitted) ← serializer.feed config event
      let (last, later) ← next.feedAll events
      some (last, emitted ++ later)

end ResponsesStreamSerializer

/-! ## The response of a request that is not streamed -/

structure ResponsesAccumulator where
  state : ResponseState
  usage : Option TokenUsage
  status : Option PyStr
  incompleteDetails : Option PyStr
  error : Option OpenAIProtocolError

namespace ResponsesAccumulator

def new : ResponsesAccumulator := ⟨.initial, none, none, none, none⟩

variable (config : ResponseConfig)

def moved (accumulator : ResponsesAccumulator) (state : ResponseState) : ResponsesAccumulator :=
  { accumulator with state := state }

def complete (accumulator : ResponsesAccumulator) (reason : CompletionReason)
    (usage : Option TokenUsage) : ResponsesAccumulator :=
  let counted := { accumulator with usage := usage.or accumulator.usage }
  if reason = .length then
    { counted with
      status := some (py "incomplete")
      incompleteDetails := some (py "max_output_tokens") }
  else { counted with status := some (py "completed") }

/-- `consume`; `none` where the mapped error's constructor raises. -/
def consume (accumulator : ResponsesAccumulator) : ServingEvent → Option ResponsesAccumulator
  | .semantic (.reasoningStarted _) =>
      some (accumulator.moved (accumulator.state.startSegment config.identity .reasoning).1)
  | .semantic (.reasoningDelta _ text) =>
      some (accumulator.moved (accumulator.state.addText config.identity .reasoning text).1)
  | .semantic (.reasoningCompleted _ text) =>
      some (accumulator.moved (accumulator.state.finishSegment config.identity .reasoning text).1)
  | .semantic (.textStarted _) =>
      some (accumulator.moved (accumulator.state.startSegment config.identity .message).1)
  | .semantic (.textDelta _ text) =>
      some (accumulator.moved (accumulator.state.addText config.identity .message text).1)
  | .semantic (.textCompleted _ text) =>
      some (accumulator.moved (accumulator.state.finishSegment config.identity .message text).1)
  | .semantic (.toolCallStarted _ callId name _) =>
      some (accumulator.moved (accumulator.state.startTool config.identity callId name).1)
  | .semantic (.toolCallArgumentsDelta _ callId delta _) =>
      match accumulator.state.tools.get? callId with
      | none => some accumulator
      | some position => some (accumulator.moved (accumulator.state.addArguments position delta))
  | .semantic (.toolCallCompleted _ call) =>
      some (accumulator.moved (accumulator.state.finishTool config.identity call).1)
  | .usageUpdated _ usage => some { accumulator with usage := some usage }
  | .generationCompleted _ reason usage _ => some (accumulator.complete reason usage)
  | .generationFailed _ error =>
      (mapCanonicalError error).map fun mapped => { accumulator with error := some mapped }
  | .generationCancelled _ => some { accumulator with status := some (py "cancelled") }
  | .generationStarted _ => some accumulator
  | .timingUpdated _ _ => some accumulator

def consumeAll (accumulator : ResponsesAccumulator) (events : List ServingEvent) :
    Option ResponsesAccumulator := events.foldlM (consume config) accumulator

inductive ResultFailure
  | protocolError (error : OpenAIProtocolError)
  | notTerminal
deriving DecidableEq

def result (accumulator : ResponsesAccumulator) : Except ResultFailure ResponseObject :=
  match accumulator.error, accumulator.status with
  | some error, _ => .error (.protocolError error)
  | none, none => .error .notTerminal
  | none, some status =>
      .ok ⟨status, accumulator.state.output, accumulator.usage, none,
        accumulator.incompleteDetails⟩

end ResponsesAccumulator

end ExQServe.OpenAI
