import ExQServe.Core.CanonicalStream
import ExQServe.Foundation.Dict
import ExQServe.Protocol.AnthropicCommon

/-! # Anthropic messages

The model of `protocol/anthropic/serialization.py`. What `uuid4` draws for a message is part of
its configuration, `json.loads` is a parameter, which gives no value where it raises
`JSONDecodeError`, and the checks of the two constructors are left out. -/

namespace ExQServe.Anthropic

open ExQServe.Model ExQServe.Canonical

structure MessageConfig where
  model : PyStr
  id : PyStr
  signature : PyStr
  omitThinking : Bool
  inputTokenCount : Nat

inductive ContentBlock
  | thinking (thinking signature : PyStr)
  | text (text : PyStr)
  | toolUse (id name : PyStr) (input : JsonObject)

namespace ContentBlock

def toJson : ContentBlock → JsonObject
  | .thinking written signature =>
      [(py "type", .str (py "thinking")), (py "thinking", .str written),
        (py "signature", .str signature)]
  | .text written => [(py "type", .str (py "text")), (py "text", .str written)]
  | .toolUse id name input =>
      [(py "type", .str (py "tool_use")), (py "id", .str id), (py "name", .str name),
        (py "input", .dict input)]

/-- A block's `thinking`, `text` or `input` is changed. The index that is kept for it is always
that of a block with this member. -/
def mapText (change : PyStr → PyStr) : ContentBlock → ContentBlock
  | .thinking written signature => .thinking (change written) signature
  | .text written => .text (change written)
  | .toolUse id name input => .toolUse id name input

def setInput (input : JsonObject) : ContentBlock → ContentBlock
  | .toolUse id name _ => .toolUse id name input
  | block => block

end ContentBlock

def stopReason (reason : CompletionReason) (stopSequence : Option PyStr) : PyStr :=
  match stopSequence with
  | some _ => py "stop_sequence"
  | none =>
      match reason with
      | .stop => py "end_turn"
      | .length => py "max_tokens"
      | .toolCalls => py "tool_use"
      | .filter => py "end_turn"

def cancelError : AnthropicProtocolError :=
  ⟨500, py "api_error", py "Generation was cancelled.", none⟩

def MessageConfig.hides (config : MessageConfig) : SegmentKind → Bool
  | .reasoning => config.omitThinking
  | .message => false

/-! ## The message of a request that is not streamed -/

/-- What `consume` and `result` raise. -/
inductive AccumulatorFailure
  | runtimeError (message : String)
  | typeError (message : String)
  | valueError (message : String)
  | protocolError (error : AnthropicProtocolError)
deriving DecidableEq

structure AnthropicMessageAccumulator where
  content : List ContentBlock
  reasoningIndex : Option Nat
  textIndex : Option Nat
  toolBlocks : Dict Nat Nat
  usage : Option TokenUsage
  reason : Option CompletionReason
  stopSequence : Option PyStr
  error : Option AnthropicProtocolError

structure AnthropicMessage where
  content : List ContentBlock
  stopReason : PyStr
  stopSequence : Option PyStr
  usage : JsonObject

def stopSequenceJson : Option PyStr → JsonValue
  | none => .null
  | some stopSequence => .str stopSequence

def AnthropicMessage.toJson (config : MessageConfig) (message : AnthropicMessage) : JsonObject :=
  [(py "id", .str config.id), (py "type", .str (py "message")),
    (py "role", .str (py "assistant")), (py "model", .str config.model),
    (py "content", .list (message.content.map fun block => .dict block.toJson)),
    (py "stop_reason", .str message.stopReason),
    (py "stop_sequence", stopSequenceJson message.stopSequence),
    (py "usage", .dict message.usage)]

namespace AnthropicMessageAccumulator

def new : AnthropicMessageAccumulator :=
  ⟨[], none, none, Dict.empty, none, none, none, none⟩

def appendBlock (accumulator : AnthropicMessageAccumulator) (block : ContentBlock) :
    AnthropicMessageAccumulator :=
  { accumulator with content := accumulator.content ++ [block] }

def modifyBlock (accumulator : AnthropicMessageAccumulator) (index : Nat)
    (change : ContentBlock → ContentBlock) : AnthropicMessageAccumulator :=
  { accumulator with content := accumulator.content.modify index change }

/-- `_reasoning_index` and `_text_index` -/
def current (accumulator : AnthropicMessageAccumulator) : SegmentKind → Option Nat
  | .reasoning => accumulator.reasoningIndex
  | .message => accumulator.textIndex

def setCurrent (accumulator : AnthropicMessageAccumulator) (index : Option Nat) :
    SegmentKind → AnthropicMessageAccumulator
  | .reasoning => { accumulator with reasoningIndex := index }
  | .message => { accumulator with textIndex := index }

variable (config : MessageConfig) (loads : PyStr → Option JsonValue)

def emptyBlock : SegmentKind → ContentBlock
  | .reasoning => .thinking [] config.signature
  | .message => .text []

def ensure (accumulator : AnthropicMessageAccumulator) (kind : SegmentKind) :
    AnthropicMessageAccumulator × Nat :=
  match accumulator.current kind with
  | some index => (accumulator, index)
  | none =>
      ((accumulator.appendBlock (emptyBlock config kind)).setCurrent
        (some accumulator.content.length) kind, accumulator.content.length)

/-- The text of the open segment becomes another one, unless it is left out. -/
def write (accumulator : AnthropicMessageAccumulator) (kind : SegmentKind)
    (change : PyStr → PyStr) : AnthropicMessageAccumulator :=
  let (ensured, index) := accumulator.ensure config kind
  if config.hides kind then ensured else ensured.modifyBlock index (ContentBlock.mapText change)

def completeCall (accumulator : AnthropicMessageAccumulator) (call : ToolCallItem)
    (arguments : JsonObject) : AnthropicMessageAccumulator :=
  match accumulator.toolBlocks.get? call.index with
  | none =>
      { accumulator.appendBlock (.toolUse call.callId call.name arguments) with
        toolBlocks := accumulator.toolBlocks.set call.index accumulator.content.length }
  | some blockIndex => accumulator.modifyBlock blockIndex (ContentBlock.setInput arguments)

def consume (accumulator : AnthropicMessageAccumulator) :
    ServingEvent → Except AccumulatorFailure AnthropicMessageAccumulator
  | .semantic (.reasoningStarted _) => .ok (accumulator.ensure config .reasoning).1
  | .semantic (.reasoningDelta _ text) => .ok (accumulator.write config .reasoning (· ++ text))
  | .semantic (.reasoningCompleted _ text) =>
      .ok ((accumulator.write config .reasoning fun _ => text).setCurrent none .reasoning)
  | .semantic (.textStarted _) => .ok (accumulator.ensure config .message).1
  | .semantic (.textDelta _ text) => .ok (accumulator.write config .message (· ++ text))
  | .semantic (.textCompleted _ text) =>
      .ok ((accumulator.write config .message fun _ => text).setCurrent none .message)
  | .semantic (.toolCallStarted _ callId name index) =>
      .ok { accumulator.appendBlock (.toolUse callId name []) with
        toolBlocks := accumulator.toolBlocks.set index accumulator.content.length }
  | .semantic (.toolCallCompleted _ call) =>
      match loads call.argumentsJson with
      | none => .error (.runtimeError "canonical tool call arguments are not valid JSON")
      | some (.dict arguments) => .ok (accumulator.completeCall call arguments)
      | some _ => .error (.typeError "canonical tool call arguments must be an object")
  | .usageUpdated _ usage => .ok { accumulator with usage := some usage }
  | .generationCompleted _ reason usage stopSequence =>
      .ok { accumulator with
        usage := usage.or accumulator.usage
        reason := some reason
        stopSequence := stopSequence }
  | .generationFailed _ error =>
      match mapCanonicalError error with
      | none => .error (.valueError "message must be a non-empty string")
      | some mapped => .ok { accumulator with error := some mapped }
  | .generationCancelled _ => .ok { accumulator with error := some cancelError }
  | .generationStarted _ | .timingUpdated _ _ | .semantic (.toolCallArgumentsDelta _ _ _ _) =>
      .ok accumulator

def consumeAll (accumulator : AnthropicMessageAccumulator) (events : List ServingEvent) :
    Except AccumulatorFailure AnthropicMessageAccumulator :=
  events.foldlM (consume config loads) accumulator

def result (accumulator : AnthropicMessageAccumulator) :
    Except AccumulatorFailure AnthropicMessage :=
  match accumulator.error with
  | some error => .error (.protocolError error)
  | none =>
      match accumulator.reason with
      | none => .error (.runtimeError "Anthropic Message accumulation is not terminal")
      | some reason =>
          .ok ⟨accumulator.content, stopReason reason accumulator.stopSequence,
            accumulator.stopSequence, anthropicUsage accumulator.usage⟩

end AnthropicMessageAccumulator

/-! ## The stream -/

inductive BlockDelta
  | thinking (thinking : PyStr)
  | signature (signature : PyStr)
  | text (text : PyStr)
  | inputJson (partialJson : PyStr)
deriving DecidableEq

def BlockDelta.toJson : BlockDelta → JsonObject
  | .thinking written =>
      [(py "type", .str (py "thinking_delta")), (py "thinking", .str written)]
  | .signature written =>
      [(py "type", .str (py "signature_delta")), (py "signature", .str written)]
  | .text written => [(py "type", .str (py "text_delta")), (py "text", .str written)]
  | .inputJson written =>
      [(py "type", .str (py "input_json_delta")), (py "partial_json", .str written)]

inductive StreamEvent
  | messageStart
  | blockStart (index : Nat) (block : ContentBlock)
  | blockDelta (index : Nat) (delta : BlockDelta)
  | blockStop (index : Nat)
  | messageDelta (stopReason : PyStr) (stopSequence : Option PyStr) (usage : JsonObject)
  | messageStop
  | error (requestId : PyStr) (error : AnthropicProtocolError)

theorem uncached (input : Nat) : ∀ total ∈ some input, ∀ cached ∈ (none : Option Nat),
    cached ≤ total := by simp

def inputUsage (input : Nat) : TokenUsage := ⟨some input, none, none, none, uncached input⟩

def StreamEvent.payload (config : MessageConfig) : StreamEvent → PyStr × JsonObject
  | .messageStart =>
      (py "message_start", [(py "type", .str (py "message_start")),
        (py "message", .dict [(py "id", .str config.id), (py "type", .str (py "message")),
          (py "role", .str (py "assistant")), (py "content", .list []),
          (py "model", .str config.model), (py "stop_reason", .null),
          (py "stop_sequence", .null),
          (py "usage", .dict (anthropicUsage (some (inputUsage config.inputTokenCount))))])])
  | .blockStart index block =>
      (py "content_block_start", [(py "type", .str (py "content_block_start")),
        (py "index", .int index), (py "content_block", .dict block.toJson)])
  | .blockDelta index delta =>
      (py "content_block_delta", [(py "type", .str (py "content_block_delta")),
        (py "index", .int index), (py "delta", .dict delta.toJson)])
  | .blockStop index =>
      (py "content_block_stop", [(py "type", .str (py "content_block_stop")),
        (py "index", .int index)])
  | .messageDelta stopReason stopSequence usage =>
      (py "message_delta", [(py "type", .str (py "message_delta")),
        (py "delta", .dict [(py "stop_reason", .str stopReason),
          (py "stop_sequence", stopSequenceJson stopSequence)]),
        (py "usage", .dict usage)])
  | .messageStop => (py "message_stop", [(py "type", .str (py "message_stop"))])
  | .error requestId failure => (py "error", failure.toBody requestId)

structure AnthropicMessageStreamSerializer where
  nextBlockIndex : Nat
  reasoningBlock : Option Nat
  textBlock : Option Nat
  toolBlocks : Dict Nat Nat
  pendingToolIndex : Option Nat
  deferredContentEvents : List ServingEvent
  usage : Option TokenUsage
  terminal : Bool

namespace AnthropicMessageStreamSerializer

def new : AnthropicMessageStreamSerializer :=
  ⟨0, none, none, Dict.empty, none, [], none, false⟩

/-- `_reasoning_block` and `_text_block`, which a completed segment leaves as they are. -/
def block (serializer : AnthropicMessageStreamSerializer) : SegmentKind → Option Nat
  | .reasoning => serializer.reasoningBlock
  | .message => serializer.textBlock

def setBlock (serializer : AnthropicMessageStreamSerializer) (index : Nat) :
    SegmentKind → AnthropicMessageStreamSerializer
  | .reasoning => { serializer with reasoningBlock := some index }
  | .message => { serializer with textBlock := some index }

def startBlock (serializer : AnthropicMessageStreamSerializer) (content : ContentBlock) :
    AnthropicMessageStreamSerializer × List StreamEvent :=
  ({ serializer with nextBlockIndex := serializer.nextBlockIndex + 1 },
    [.blockStart serializer.nextBlockIndex content])

/-- The block of a segment in a stream begins without a signature. -/
def openingBlock : SegmentKind → ContentBlock
  | .reasoning => .thinking [] []
  | .message => .text []

def textDelta : SegmentKind → PyStr → BlockDelta
  | .reasoning => .thinking
  | .message => .text

def startSegment (serializer : AnthropicMessageStreamSerializer) (kind : SegmentKind) :
    AnthropicMessageStreamSerializer × List StreamEvent :=
  (serializer.setBlock serializer.nextBlockIndex kind).startBlock (openingBlock kind)

def ensureBlock (serializer : AnthropicMessageStreamSerializer) (kind : SegmentKind) :
    AnthropicMessageStreamSerializer × List StreamEvent × Nat :=
  match serializer.block kind with
  | some index => (serializer, [], index)
  | none =>
      let (started, emitted) := serializer.startSegment kind
      (started, emitted, serializer.nextBlockIndex)

variable (config : MessageConfig)

def segmentDelta (serializer : AnthropicMessageStreamSerializer) (kind : SegmentKind)
    (text : PyStr) : AnthropicMessageStreamSerializer × List StreamEvent :=
  let (ensured, emitted, index) := serializer.ensureBlock kind
  (ensured, emitted ++ if config.hides kind then [] else [.blockDelta index (textDelta kind text)])

def closingDeltas : SegmentKind → List BlockDelta
  | .reasoning => [.signature config.signature]
  | .message => []

def segmentCompleted (serializer : AnthropicMessageStreamSerializer) (kind : SegmentKind) :
    AnthropicMessageStreamSerializer × List StreamEvent :=
  let (ensured, emitted, index) := serializer.ensureBlock kind
  (ensured, emitted ++ (closingDeltas config kind).map (.blockDelta index) ++ [.blockStop index])

def projectOpen (serializer : AnthropicMessageStreamSerializer) :
    ServingEvent → Option (AnthropicMessageStreamSerializer × List StreamEvent)
  | .generationStarted _ => some (serializer, [.messageStart])
  | .semantic (.reasoningStarted _) => some (serializer.startSegment .reasoning)
  | .semantic (.reasoningDelta _ text) => some (serializer.segmentDelta config .reasoning text)
  | .semantic (.reasoningCompleted _ _) => some (serializer.segmentCompleted config .reasoning)
  | .semantic (.textStarted _) => some (serializer.startSegment .message)
  | .semantic (.textDelta _ text) => some (serializer.segmentDelta config .message text)
  | .semantic (.textCompleted _ _) => some (serializer.segmentCompleted config .message)
  | .semantic (.toolCallStarted _ callId name index) =>
      some (({ serializer with
        toolBlocks := serializer.toolBlocks.set index serializer.nextBlockIndex
        pendingToolIndex := some index }).startBlock (.toolUse callId name []))
  | .semantic (.toolCallArgumentsDelta _ _ delta index) =>
      match serializer.toolBlocks.get? index with
      | none => some (serializer, [])
      | some blockIndex => some (serializer, [.blockDelta blockIndex (.inputJson delta)])
  | .semantic (.toolCallCompleted _ call) =>
      match serializer.toolBlocks.get? call.index with
      | none => some (serializer, [])
      | some blockIndex =>
          some ({ serializer with
            toolBlocks := serializer.toolBlocks.erase call.index
            pendingToolIndex := serializer.pendingToolIndex.filter (· ≠ call.index) },
            [.blockStop blockIndex])
  | .generationCompleted _ reason usage stopSequence =>
      some ({ serializer with terminal := true },
        [.messageDelta (stopReason reason stopSequence) stopSequence
            (anthropicUsage (usage.or serializer.usage)),
          .messageStop])
  | .generationFailed requestId error =>
      (mapCanonicalError error).map fun mapped =>
        ({ serializer with terminal := true }, [.error requestId mapped])
  | .generationCancelled requestId =>
      some ({ serializer with terminal := true }, [.error requestId cancelError])
  | .usageUpdated _ _ | .timingUpdated _ _ => some (serializer, [])

def project (serializer : AnthropicMessageStreamSerializer) (event : ServingEvent) :
    Option (AnthropicMessageStreamSerializer × List StreamEvent) :=
  if serializer.terminal then some (serializer, []) else serializer.projectOpen config event

/-- `_can_project_while_tool_pending` -/
def canProject (serializer : AnthropicMessageStreamSerializer) (event : ServingEvent) : Bool :=
  match serializer.pendingToolIndex with
  | none => true
  | some pending =>
      match event with
      | .semantic (.toolCallArgumentsDelta _ _ _ index) => index = pending
      | .semantic (.toolCallCompleted _ call) => call.index = pending
      | _ => false

def isContentOrSuccessTerminal : ServingEvent → Bool
  | .semantic _ | .generationCompleted _ _ _ _ => true
  | _ => false

def drain (serializer : AnthropicMessageStreamSerializer) :
    List ServingEvent → Option (AnthropicMessageStreamSerializer × List StreamEvent)
  | [] => some ({ serializer with deferredContentEvents := [] }, [])
  | event :: events =>
      if serializer.terminal || !serializer.canProject event then
        some ({ serializer with deferredContentEvents := event :: events }, [])
      else do
        let (next, emitted) ← serializer.project config event
        let (last, later) ← next.drain events
        some (last, emitted ++ later)

def advance (serializer : AnthropicMessageStreamSerializer) (event : ServingEvent) :
    Option (AnthropicMessageStreamSerializer × List StreamEvent) := do
  let (next, emitted) ← serializer.project config event
  let (last, later) ← next.drain config next.deferredContentEvents
  some (last, emitted ++ later)

def feed (serializer : AnthropicMessageStreamSerializer) (event : ServingEvent) :
    Option (AnthropicMessageStreamSerializer × List StreamEvent) :=
  if serializer.terminal then some (serializer, [])
  else
    match event with
    | .usageUpdated _ usage => some ({ serializer with usage := some usage }, [])
    | .generationFailed _ _ | .generationCancelled _ =>
        { serializer with deferredContentEvents := [] }.project config event
    | _ =>
        if isContentOrSuccessTerminal event && !serializer.canProject event then
          some ({ serializer with
            deferredContentEvents := serializer.deferredContentEvents ++ [event] }, [])
        else serializer.advance config event

def feedAll (serializer : AnthropicMessageStreamSerializer) :
    List ServingEvent → Option (AnthropicMessageStreamSerializer × List StreamEvent)
  | [] => some (serializer, [])
  | event :: events => do
      let (next, emitted) ← serializer.feed config event
      let (last, later) ← next.feedAll events
      some (last, emitted ++ later)

end AnthropicMessageStreamSerializer

end ExQServe.Anthropic
