import ExQServe.Agent.JsonLoads
import ExQServe.Core.Events
import ExQServe.Serving.MidSystem

/-! # Captures

The model of `observability/capture.py`: the records of finished requests, the events and
requests that are read from them, and the file of records. The text of a decoder's error is
kept but for the values it formats. -/

namespace ExQServe

open ExQServe.Model

/-! ## Constructed values -/

def PyFloat.isNegative (value : PyFloat) : Bool := value.negative && value.mantissa != 0

def GenerationTiming.Constructed (timing : GenerationTiming) : Prop :=
  ∀ measurement ∈ [timing.queueSeconds, timing.prefillSeconds, timing.generationSeconds],
    ∀ seconds ∈ measurement, seconds.isNegative = false

/-- The checks of the event's constructor that its type does not carry. -/
def Model.GenerationEvent.Constructed : GenerationEvent → Prop
  | .textStarted requestId => NonBlank requestId
  | .textDelta requestId text => NonBlank requestId ∧ text ≠ []
  | .textCompleted requestId _ => NonBlank requestId
  | .reasoningStarted requestId => NonBlank requestId
  | .reasoningDelta requestId text => NonBlank requestId ∧ text ≠ []
  | .reasoningCompleted requestId _ => NonBlank requestId
  | .toolCallStarted requestId callId name _ =>
      NonBlank requestId ∧ NonBlank callId ∧ NonBlank name
  | .toolCallArgumentsDelta requestId callId delta _ =>
      NonBlank requestId ∧ NonBlank callId ∧ delta ≠ []
  | .toolCallCompleted requestId _ => NonBlank requestId

def ServingEvent.Constructed : ServingEvent → Prop
  | .generationStarted requestId => NonBlank requestId
  | .generationCompleted requestId reason _ stopSequence =>
      NonBlank requestId ∧ ∀ stop ∈ stopSequence, stop ≠ [] ∧ reason = .stop
  | .generationCancelled requestId => NonBlank requestId
  | .generationFailed requestId _ => NonBlank requestId
  | .semantic event => event.Constructed
  | .timingUpdated requestId timing => NonBlank requestId ∧ timing.Constructed
  | .usageUpdated requestId _ => NonBlank requestId

end ExQServe

namespace ExQServe.Observability

open ExQServe.Model ExQServe.Serving

/-! ## Requests -/

inductive RawPromptItem
  | text (text : PyStr)
  | tokenIds (tokenIds : List Nat) (nonEmpty : tokenIds ≠ [])

structure RawPromptRequest where
  requestId : PyStr
  model : PyStr
  item : RawPromptItem
  requestIdNonBlank : NonBlank requestId
  modelNonBlank : NonBlank model

inductive CapturedItem
  | canonical (item : CanonicalItem)
  | rawPrompt (item : RawPromptItem)

inductive CapturedRequest
  | canonical (request : CanonicalRequest)
  | rawPrompt (request : RawPromptRequest)

namespace CapturedRequest

def requestId : CapturedRequest → PyStr
  | .canonical request => request.requestId
  | .rawPrompt request => request.requestId

def model : CapturedRequest → PyStr
  | .canonical request => request.model
  | .rawPrompt request => request.model

def items : CapturedRequest → List CapturedItem
  | .canonical request => request.items.map .canonical
  | .rawPrompt request => [.rawPrompt request.item]

end CapturedRequest

/-! ## Encoding -/

def encodeOptional {α : Type} (encode : α → JsonValue) : Option α → JsonValue
  | none => .null
  | some value => encode value

def encodeNat (value : Nat) : JsonValue := .int value

def encodeTiming (timing : GenerationTiming) : JsonObject :=
  [(py "queue_seconds", encodeOptional .float timing.queueSeconds),
    (py "prefill_seconds", encodeOptional .float timing.prefillSeconds),
    (py "generation_seconds", encodeOptional .float timing.generationSeconds)]

def encodeErrorMetadata (error : CanonicalError) : JsonObject :=
  [(py "category", .str error.category.value), (py "code", .str error.code),
    (py "retryable", .bool error.retryable)] ++
    match error.cause with
    | none => []
    | some cause => [(py "cause", .str cause.value)]

def encodeErrorFull (error : CanonicalError) : JsonObject :=
  encodeErrorMetadata error ++ [(py "message", .str error.message)]

def encodeUsage (usage : TokenUsage) : JsonObject :=
  [(py "input_tokens", encodeOptional encodeNat usage.inputTokens),
    (py "cached_input_tokens", encodeOptional encodeNat usage.cachedInputTokens),
    (py "output_tokens", encodeOptional encodeNat usage.outputTokens),
    (py "reasoning_tokens", encodeOptional encodeNat usage.reasoningTokens)]

def encodeContentPart : MessageContentPart → JsonValue
  | .text part => .dict [(py "type", .str (py "text")), (py "text", .str part.text)]
  | .image part =>
      .dict ([(py "type", .str (py "image")), (py "source", .str part.source)] ++
        match part.detail with
        | none => []
        | some detail => [(py "detail", .str detail)])

def encodeContentParts (parts : List MessageContentPart) : JsonValue :=
  .list (parts.map encodeContentPart)

def encodeToolCall (item : ToolCallItem) : JsonValue :=
  .dict [(py "type", .str (py "tool_call")), (py "call_id", .str item.callId),
    (py "name", .str item.name), (py "arguments_json", .str item.argumentsJson),
    (py "index", encodeNat item.index)]

def encodeItem : CapturedItem → JsonValue
  | .canonical (.message item) =>
      .dict [(py "type", .str (py "message")), (py "role", .str item.role.value),
        (py "text", .str item.text)]
  | .canonical (.multimodalMessage item) =>
      .dict [(py "type", .str (py "multimodal_message")), (py "role", .str item.role.value),
        (py "parts", encodeContentParts item.parts)]
  | .rawPrompt (.text text) =>
      .dict [(py "type", .str (py "raw_prompt")), (py "text", .str text),
        (py "token_ids", .null)]
  | .rawPrompt (.tokenIds tokenIds _) =>
      .dict [(py "type", .str (py "raw_prompt")), (py "text", .null),
        (py "token_ids", .list (tokenIds.map encodeNat))]
  | .canonical (.reasoning item) =>
      .dict [(py "type", .str (py "reasoning")), (py "text", .str item.text),
        (py "starts_new_assistant_segment", .bool item.startsNewAssistantSegment)]
  | .canonical (.toolCall item) => encodeToolCall item
  | .canonical (.toolResult item) =>
      .dict [(py "type", .str (py "tool_result")), (py "call_id", .str item.callId),
        (py "text", .str item.text), (py "is_error", .bool item.isError)]
  | .canonical (.multimodalToolResult item) =>
      .dict [(py "type", .str (py "multimodal_tool_result")), (py "call_id", .str item.callId),
        (py "parts", encodeContentParts item.parts), (py "is_error", .bool item.isError)]

def encodeRequest (request : CapturedRequest) : JsonObject :=
  [(py "request_id", .str request.requestId), (py "model", .str request.model),
    (py "items", .list (request.items.map encodeItem))]

def eventBase (kind requestId : PyStr) : JsonObject :=
  [(py "type", .str kind), (py "request_id", .str requestId)]

def encodeGenerationEvent : GenerationEvent → JsonObject
  | .textStarted requestId => eventBase (py "text_started") requestId
  | .textDelta requestId text =>
      eventBase (py "text_delta") requestId ++ [(py "text", .str text)]
  | .textCompleted requestId text =>
      eventBase (py "text_completed") requestId ++ [(py "text", .str text)]
  | .reasoningStarted requestId => eventBase (py "reasoning_started") requestId
  | .reasoningDelta requestId text =>
      eventBase (py "reasoning_delta") requestId ++ [(py "text", .str text)]
  | .reasoningCompleted requestId text =>
      eventBase (py "reasoning_completed") requestId ++ [(py "text", .str text)]
  | .toolCallStarted requestId callId name index =>
      eventBase (py "tool_call_started") requestId ++
        [(py "call_id", .str callId), (py "name", .str name), (py "index", encodeNat index)]
  | .toolCallArgumentsDelta requestId callId delta index =>
      eventBase (py "tool_call_arguments_delta") requestId ++
        [(py "call_id", .str callId), (py "delta", .str delta), (py "index", encodeNat index)]
  | .toolCallCompleted requestId call =>
      eventBase (py "tool_call_completed") requestId ++ [(py "call", encodeToolCall call)]

def encodeEvent : ServingEvent → JsonObject
  | .generationStarted requestId => eventBase (py "generation_started") requestId
  | .generationCompleted requestId reason usage stopSequence =>
      eventBase (py "generation_completed") requestId ++
        [(py "reason", .str reason.value),
          (py "usage", encodeOptional (fun usage => .dict (encodeUsage usage)) usage),
          (py "stop_sequence", encodeOptional .str stopSequence)]
  | .generationCancelled requestId => eventBase (py "generation_cancelled") requestId
  | .generationFailed requestId error =>
      eventBase (py "generation_failed") requestId ++
        [(py "error", .dict (encodeErrorFull error))]
  | .semantic event => encodeGenerationEvent event
  | .timingUpdated requestId timing =>
      eventBase (py "timing_updated") requestId ++ [(py "timing", .dict (encodeTiming timing))]
  | .usageUpdated requestId usage =>
      eventBase (py "usage_updated") requestId ++ [(py "usage", .dict (encodeUsage usage))]

/-! ## Records -/

inductive CaptureMode
  | off
  | metadata
  | full
deriving DecidableEq, Repr

def CaptureMode.value : CaptureMode → PyStr
  | .off => py "off"
  | .metadata => py "metadata"
  | .full => py "full"

def schemaVersion : Int := 1

structure TerminalCapture where
  request : CapturedRequest
  promptHash : Option PyStr
  status : PyStr
  elapsedSeconds : PyFloat
  usage : TokenUsage
  timing : GenerationTiming
  error : Option CanonicalError
  events : List ServingEvent
  runtimeTrace : List JsonObject
  execution : Option JsonObject

inductive CaptureError
  | unsupportedStatus
  | negativeElapsed
deriving DecidableEq, Repr

def terminalStatuses : List PyStr :=
  [py "completed", py "failed", py "cancelled", py "rejected"]

def recordMetadata (mode : CaptureMode) (capture : TerminalCapture) : JsonObject :=
  [(py "schema_version", .int schemaVersion), (py "mode", .str mode.value),
    (py "request_id", .str capture.request.requestId), (py "model", .str capture.request.model),
    (py "prompt_hash", encodeOptional .str capture.promptHash),
    (py "status", .str capture.status), (py "elapsed_seconds", .float capture.elapsedSeconds),
    (py "usage", .dict (encodeUsage capture.usage)),
    (py "timing", .dict (encodeTiming capture.timing)),
    (py "error", encodeOptional (fun error => .dict (encodeErrorMetadata error)) capture.error)]

def recordContent (capture : TerminalCapture) : JsonObject :=
  [(py "request", .dict (encodeRequest capture.request)),
    (py "events", .list (capture.events.map fun event => .dict (encodeEvent event)))] ++
    if capture.runtimeTrace = [] then []
    else [(py "runtime_trace", .list (capture.runtimeTrace.map .dict))]

def recordTerminal (mode : CaptureMode) (capture : TerminalCapture) :
    Except CaptureError (Option JsonObject) :=
  if mode = .off then .ok none
  else if capture.status ∉ terminalStatuses then .error .unsupportedStatus
  else if capture.elapsedSeconds.isNegative then .error .negativeElapsed
  else
    .ok (some (recordMetadata mode capture ++
      (match capture.execution with
      | none => []
      | some execution => [(py "execution", .dict execution)]) ++
      if mode = .full then recordContent capture else []))

/-! ## Decoding -/

/-- Why a record is refused. `untyped` stands for a field that no check looks at and whose value
has the wrong type: the object that Python builds there has no counterpart. -/
inductive ReplayError
  | typeError (message : String)
  | valueError (message : String)
  | attributeError
  | overflowError
  | untyped
deriving DecidableEq, Repr

abbrev Replayed := Except ReplayError

def enumMember {α : Type} (value : α → PyStr) (members : List α) : Option JsonValue → Replayed α
  | some (.str text) =>
      match members.find? fun member => decide (value member = text) with
      | some member => .ok member
      | none => .error (.valueError "not a valid value of the enumeration")
  | _ => .error (.valueError "not a valid value of the enumeration")

def requireObject (message : String) : Option JsonValue → Replayed JsonObject
  | some (.dict entries) => .ok entries
  | _ => .error (.typeError message)

def requireText (message : String) : Option JsonValue → Replayed PyStr
  | some (.str text) => .ok text
  | _ => .error (.typeError message)

/-- The `type` of a part, an item or an event: what is no text is no known type. -/
def requireKind (message : String) : Option JsonValue → Replayed PyStr
  | some (.str kind) => .ok kind
  | _ => .error (.valueError message)

def requireBool (message : String) : Option JsonValue → Replayed Bool
  | some (.bool flag) => .ok flag
  | _ => .error (.typeError message)

def optionalText (message : String) : Option JsonValue → Replayed (Option PyStr)
  | none | some .null => .ok none
  | some (.str text) => .ok (some text)
  | some _ => .error (.typeError message)

/-- A field whose constructor calls `strip` without a check of its type. -/
def requireNonBlank (message : String) :
    Option JsonValue → Replayed {text : PyStr // NonBlank text}
  | some (.str text) =>
      if nonBlank : NonBlank text then .ok ⟨text, nonBlank⟩ else .error (.valueError message)
  | _ => .error .attributeError

def requireDelta (message : String) : Option JsonValue → Replayed PyStr
  | some (.str text) => if text = [] then .error (.valueError message) else .ok text
  | _ => .error .untyped

def requireIndex : Option JsonValue → Replayed Nat
  | some (.int index) =>
      if index < 0 then .error (.valueError "index must be non-negative") else .ok index.toNat
  | _ => .error (.typeError "index must be an integer")

def flagOrFalse (message : String) (value : Option JsonValue) : Replayed Bool :=
  requireBool message (some (value.getD (.bool false)))

def measured (name : String) : Option JsonValue → Replayed (Option PyFloat)
  | none | some .null => .ok none
  | some (.float seconds) =>
      if seconds.isNegative then
        .error (.valueError (name ++ " must be finite and non-negative"))
      else .ok (some seconds)
  | some (.int value) =>
      match PyFloat.ofDecimal (decide (value < 0)) value.natAbs 0 with
      | none => .error .overflowError
      | some seconds =>
          if seconds.isNegative then
            .error (.valueError (name ++ " must be finite and non-negative"))
          else .ok (some seconds)
  | some _ => .error (.typeError (name ++ " must be a number or None"))

def decodeTiming (value : Option JsonValue) : Replayed GenerationTiming := do
  let entries ← requireObject "captured timing is malformed" value
  let queueSeconds ← measured "queue_seconds" (entries.get? (py "queue_seconds"))
  let prefillSeconds ← measured "prefill_seconds" (entries.get? (py "prefill_seconds"))
  let generationSeconds ← measured "generation_seconds" (entries.get? (py "generation_seconds"))
  return ⟨queueSeconds, prefillSeconds, generationSeconds⟩

def decodeError (value : Option JsonValue) : Replayed CanonicalError := do
  let entries ← requireObject "captured error is malformed" value
  let category ← requireText "captured error is malformed" (entries.get? (py "category"))
  let code ← requireText "captured error is malformed" (entries.get? (py "code"))
  let message ← requireText "captured error is malformed" (entries.get? (py "message"))
  let retryable ← requireBool "captured error retryable flag is malformed"
    (entries.get? (py "retryable"))
  let cause ← optionalText "captured error cause is malformed" (entries.get? (py "cause"))
  let category ← enumMember ErrorCategory.value ErrorCategory.members (some (.str category))
  let cause ← cause.mapM fun cause =>
    enumMember FailureCause.value FailureCause.members (some (.str cause))
  let code ← requireNonBlank "code must not be empty" (some (.str code))
  return ⟨category, code.1, message, retryable, cause, code.2⟩

def measuredCount (name : String) : Option JsonValue → Replayed (Option Nat)
  | none | some .null => .ok none
  | some (.int count) =>
      if count < 0 then .error (.valueError (name ++ " must be non-negative"))
      else .ok (some count.toNat)
  | some _ => .error (.typeError (name ++ " must be an integer or None"))

def usageOf (input cached output reasoning : Option Nat) : Replayed TokenUsage :=
  if within : ∀ inputs ∈ input, ∀ cachedInputs ∈ cached, cachedInputs ≤ inputs then
    .ok ⟨input, cached, output, reasoning, within⟩
  else
    .error (.valueError "cached_input_tokens cannot exceed input_tokens")

def decodeUsage (value : Option JsonValue) : Replayed TokenUsage := do
  let entries ← requireObject "captured usage is malformed" value
  let input ← measuredCount "input_tokens" (entries.get? (py "input_tokens"))
  let cached ← measuredCount "cached_input_tokens" (entries.get? (py "cached_input_tokens"))
  let output ← measuredCount "output_tokens" (entries.get? (py "output_tokens"))
  let reasoning ← measuredCount "reasoning_tokens" (entries.get? (py "reasoning_tokens"))
  usageOf input cached output reasoning

def imagePartOf (source : PyStr) (detail : Option PyStr) : Replayed MessageContentPart :=
  if nonBlank : NonBlank source then
    if allowed : ∀ known ∈ detail, known ∈ [py "auto", py "low", py "high"] then
      .ok (.image ⟨source, detail, nonBlank, allowed⟩)
    else
      .error (.valueError "detail must be auto, low, high, or None")
  else
    .error (.valueError "source must not be empty")

def decodeImagePart (entries : JsonObject) : Replayed MessageContentPart := do
  let source ← requireText "captured multimodal image part is malformed"
    (entries.get? (py "source"))
  let detail ← optionalText "captured multimodal image part is malformed"
    (entries.get? (py "detail"))
  imagePartOf source detail

def decodeTextPart (entries : JsonObject) : Replayed MessageContentPart := do
  let text ← requireText "captured multimodal text part is malformed" (entries.get? (py "text"))
  return .text ⟨text⟩

def decodeContentPartOf (kind : PyStr) (entries : JsonObject) : Replayed MessageContentPart :=
  if kind = py "text" then decodeTextPart entries
  else if kind = py "image" then decodeImagePart entries
  else .error (.valueError "unsupported captured content part type")

def decodeContentPart (value : JsonValue) : Replayed MessageContentPart := do
  let entries ← requireObject "captured multimodal content is malformed" (some value)
  let kind ← requireKind "unsupported captured content part type" (entries.get? (py "type"))
  decodeContentPartOf kind entries

def decodeContentParts : Option JsonValue → Replayed (List MessageContentPart)
  | some (.list (part :: parts)) => (part :: parts).mapM decodeContentPart
  | _ => .error (.typeError "captured multimodal content is malformed")

def decodeMessage (entries : JsonObject) : Replayed CanonicalItem := do
  let role ← enumMember MessageRole.value MessageRole.members (entries.get? (py "role"))
  let text ← requireText "text must be a string" (entries.get? (py "text"))
  return .message ⟨role, text⟩

def multimodalMessageOf (role : MessageRole) (parts : List MessageContentPart) :
    Replayed CanonicalItem :=
  if fromUser : role = .user then
    if someImage : parts.any MessageContentPart.isImage = true then
      .ok (.multimodalMessage ⟨role, parts, fromUser, someImage⟩)
    else
      .error (.valueError "multimodal messages must contain at least one image part")
  else
    .error (.valueError "multimodal messages are supported only for the user role")

def decodeMultimodalMessage (entries : JsonObject) : Replayed CanonicalItem := do
  let role ← enumMember MessageRole.value MessageRole.members (entries.get? (py "role"))
  let parts ← decodeContentParts (entries.get? (py "parts"))
  multimodalMessageOf role parts

/-- `isinstance(token_id, int) and not isinstance(token_id, bool)` -/
def requireInt : JsonValue → Replayed Int
  | .int value => .ok value
  | _ => .error (.typeError "captured raw token prompt is malformed")

def rawTokensOf (tokenIds : List Int) : Replayed RawPromptItem :=
  if nonEmpty : tokenIds ≠ [] then
    if ∀ tokenId ∈ tokenIds, 0 ≤ tokenId then
      .ok (.tokenIds (tokenIds.map Int.toNat) (by simpa using nonEmpty))
    else
      .error (.typeError "token_ids must contain only non-negative integers")
  else
    .error (.valueError "token_ids must not be empty")

def decodeRawTokens : Option JsonValue → Replayed RawPromptItem
  | some (.list tokenIds) => do
      let values ← tokenIds.mapM requireInt
      rawTokensOf values
  | _ => .error (.typeError "captured raw token prompt is malformed")

def decodeRawPrompt (entries : JsonObject) : Replayed RawPromptItem :=
  match entries.get? (py "text"), entries.get? (py "token_ids") with
  | none, tokenIds | some .null, tokenIds => decodeRawTokens tokenIds
  | some (.str text), none | some (.str text), some .null => .ok (.text text)
  | _, _ => .error (.typeError "captured raw text prompt is malformed")

def decodeReasoning (entries : JsonObject) : Replayed CanonicalItem := do
  let text ← requireText "text must be a string" (entries.get? (py "text"))
  let starts ← flagOrFalse "starts_new_assistant_segment must be a bool"
    (entries.get? (py "starts_new_assistant_segment"))
  return .reasoning ⟨text, starts⟩

def decodeToolCall (entries : JsonObject) : Replayed ToolCallItem := do
  let callId ← requireNonBlank "call_id must not be empty" (entries.get? (py "call_id"))
  let name ← requireNonBlank "name must not be empty" (entries.get? (py "name"))
  let argumentsJson ← requireText "arguments_json must be a string"
    (entries.get? (py "arguments_json"))
  let index ← requireIndex (entries.get? (py "index"))
  return ⟨callId.1, name.1, argumentsJson, index, callId.2, name.2⟩

def decodeToolResult (entries : JsonObject) : Replayed CanonicalItem := do
  let callId ← requireNonBlank "call_id must not be empty" (entries.get? (py "call_id"))
  let text ← requireText "text must be a string" (entries.get? (py "text"))
  let isError ← flagOrFalse "is_error must be a bool" (entries.get? (py "is_error"))
  return .toolResult ⟨callId.1, text, isError, callId.2⟩

def multimodalToolResultOf (callId : {text : PyStr // NonBlank text})
    (parts : List MessageContentPart) (isError : Option JsonValue) : Replayed CanonicalItem :=
  if someImage : parts.any MessageContentPart.isImage = true then do
    let isError ← flagOrFalse "is_error must be a bool" isError
    return .multimodalToolResult ⟨callId.1, parts, isError, callId.2, someImage⟩
  else
    .error (.valueError "multimodal tool results must contain at least one image part")

def decodeMultimodalToolResult (entries : JsonObject) : Replayed CanonicalItem := do
  let parts ← decodeContentParts (entries.get? (py "parts"))
  let callId ← requireNonBlank "call_id must not be empty" (entries.get? (py "call_id"))
  multimodalToolResultOf callId parts (entries.get? (py "is_error"))

def decodeItemOf (kind : PyStr) (entries : JsonObject) : Replayed CapturedItem :=
  if kind = py "message" then (decodeMessage entries).map .canonical
  else if kind = py "multimodal_message" then (decodeMultimodalMessage entries).map .canonical
  else if kind = py "raw_prompt" then (decodeRawPrompt entries).map .rawPrompt
  else if kind = py "reasoning" then (decodeReasoning entries).map .canonical
  else if kind = py "tool_call" then
    (decodeToolCall entries).map fun call => .canonical (.toolCall call)
  else if kind = py "tool_result" then (decodeToolResult entries).map .canonical
  else if kind = py "multimodal_tool_result" then
    (decodeMultimodalToolResult entries).map .canonical
  else .error (.valueError "unsupported captured item type")

def decodeItem (value : Option JsonValue) : Replayed CapturedItem := do
  let entries ← requireObject "captured item is malformed" value
  let kind ← requireKind "unsupported captured item type" (entries.get? (py "type"))
  decodeItemOf kind entries

/-! ## Decoding events -/

def withRequestId (requestId : PyStr) (event : ServingEvent) : Replayed ServingEvent :=
  if NonBlank requestId then .ok event else .error (.valueError "request_id must not be empty")

def stopSequenceOf (reason : CompletionReason) : Option JsonValue → Replayed (Option PyStr)
  | none | some .null => .ok none
  | some (.str stop) =>
      if stop = [] then .error (.valueError "stop_sequence must not be empty")
      else if reason ≠ .stop then
        .error (.valueError "stop_sequence is valid only for stop completions")
      else .ok (some stop)
  | some _ => .error (.typeError "stop_sequence must be a string or None")

def optionalUsage : Option JsonValue → Replayed (Option TokenUsage)
  | none | some .null => .ok none
  | some value => (decodeUsage (some value)).map some

def decodeGenerationCompleted (requestId : PyStr) (entries : JsonObject) :
    Replayed ServingEvent := do
  let usage ← optionalUsage (entries.get? (py "usage"))
  let reason ← enumMember CompletionReason.value CompletionReason.members
    (entries.get? (py "reason"))
  let _ ← withRequestId requestId (.generationStarted requestId)
  let stopSequence ← stopSequenceOf reason (entries.get? (py "stop_sequence"))
  return .generationCompleted requestId reason usage stopSequence

def decodeGenerationFailed (requestId : PyStr) (entries : JsonObject) :
    Replayed ServingEvent := do
  let error ← decodeError (entries.get? (py "error"))
  withRequestId requestId (.generationFailed requestId error)

def decodeDelta (message : String) (requestId : PyStr) (text : Option JsonValue)
    (event : PyStr → GenerationEvent) : Replayed ServingEvent := do
  let _ ← withRequestId requestId (.generationStarted requestId)
  let text ← requireDelta message text
  return .semantic (event text)

def decodeText (requestId : PyStr) (text : Option JsonValue) (event : PyStr → GenerationEvent) :
    Replayed ServingEvent := do
  let _ ← withRequestId requestId (.generationStarted requestId)
  let text ← requireText "text must be a string" text
  return .semantic (event text)

/-- The name of a started call: `_validate_tool_identity` leaves `None` unchecked. -/
def startedName : Option JsonValue → Replayed (Option {text : PyStr // NonBlank text})
  | none | some .null => .ok none
  | some value => (requireNonBlank "name must not be empty" (some value)).map some

def decodeToolCallStarted (requestId : PyStr) (entries : JsonObject) :
    Replayed ServingEvent := do
  let _ ← withRequestId requestId (.generationStarted requestId)
  let callId ← requireNonBlank "call_id must not be empty" (entries.get? (py "call_id"))
  let name ← startedName (entries.get? (py "name"))
  let index ← requireIndex (entries.get? (py "index"))
  match name with
  | none => .error .untyped
  | some name => .ok (.semantic (.toolCallStarted requestId callId.1 name.1 index))

def decodeToolCallArgumentsDelta (requestId : PyStr) (entries : JsonObject) :
    Replayed ServingEvent := do
  let _ ← withRequestId requestId (.generationStarted requestId)
  let callId ← requireNonBlank "call_id must not be empty" (entries.get? (py "call_id"))
  let index ← requireIndex (entries.get? (py "index"))
  let delta ← requireDelta "tool-call arguments delta must not be empty"
    (entries.get? (py "delta"))
  return .semantic (.toolCallArgumentsDelta requestId callId.1 delta index)

def decodeToolCallCompleted (requestId : PyStr) (entries : JsonObject) :
    Replayed ServingEvent := do
  let call ← decodeItem (entries.get? (py "call"))
  match call with
  | .canonical (.toolCall call) =>
      withRequestId requestId (.semantic (.toolCallCompleted requestId call))
  | _ => .error (.valueError "captured completed tool call is malformed")

def decodeTimingUpdated (requestId : PyStr) (entries : JsonObject) : Replayed ServingEvent := do
  let timing ← decodeTiming (entries.get? (py "timing"))
  withRequestId requestId (.timingUpdated requestId timing)

def decodeUsageUpdated (requestId : PyStr) (entries : JsonObject) : Replayed ServingEvent := do
  let usage ← decodeUsage (entries.get? (py "usage"))
  withRequestId requestId (.usageUpdated requestId usage)

def decodeEventOf (kind requestId : PyStr) (entries : JsonObject) : Replayed ServingEvent :=
  if kind = py "generation_started" then
    withRequestId requestId (.generationStarted requestId)
  else if kind = py "generation_completed" then decodeGenerationCompleted requestId entries
  else if kind = py "generation_cancelled" then
    withRequestId requestId (.generationCancelled requestId)
  else if kind = py "generation_failed" then decodeGenerationFailed requestId entries
  else if kind = py "text_started" then
    withRequestId requestId (.semantic (.textStarted requestId))
  else if kind = py "text_delta" then
    decodeDelta "text delta must not be empty" requestId (entries.get? (py "text"))
      (.textDelta requestId)
  else if kind = py "text_completed" then
    decodeText requestId (entries.get? (py "text")) (.textCompleted requestId)
  else if kind = py "reasoning_started" then
    withRequestId requestId (.semantic (.reasoningStarted requestId))
  else if kind = py "reasoning_delta" then
    decodeDelta "reasoning delta must not be empty" requestId (entries.get? (py "text"))
      (.reasoningDelta requestId)
  else if kind = py "reasoning_completed" then
    decodeText requestId (entries.get? (py "text")) (.reasoningCompleted requestId)
  else if kind = py "tool_call_started" then decodeToolCallStarted requestId entries
  else if kind = py "tool_call_arguments_delta" then
    decodeToolCallArgumentsDelta requestId entries
  else if kind = py "tool_call_completed" then decodeToolCallCompleted requestId entries
  else if kind = py "timing_updated" then decodeTimingUpdated requestId entries
  else if kind = py "usage_updated" then decodeUsageUpdated requestId entries
  else .error (.valueError "unsupported captured event type")

def decodeEvent (value : JsonValue) : Replayed ServingEvent := do
  let entries ← requireObject "captured event is malformed" (some value)
  let requestId ← requireText "captured event request_id is malformed"
    (entries.get? (py "request_id"))
  let kind ← requireKind "unsupported captured event type" (entries.get? (py "type"))
  decodeEventOf kind requestId entries

/-! ## Replay -/

/-- `1 == value` of a JSON value. -/
def isOne : JsonValue → Bool
  | .int value => value == 1
  | .bool value => value
  | .float value => !value.negative && value.magnitude.1 == value.magnitude.2
  | _ => false

/-- `record.get("schema_version") == _SCHEMA_VERSION` -/
def hasSchemaVersion (record : JsonObject) : Bool :=
  (record.get? (py "schema_version")).any isOne

def requireFull (record : JsonObject) : Replayed Unit :=
  if hasSchemaVersion record = false then
    .error (.valueError "unsupported capture schema_version")
  else
    match record.get? (py "mode") with
    | some (.str mode) =>
        if mode = CaptureMode.full.value then .ok ()
        else .error (.valueError "replay requires a full capture")
    | _ => .error (.valueError "replay requires a full capture")

def CapturedItem.isRaw : CapturedItem → Bool
  | .canonical _ => false
  | .rawPrompt _ => true

def CapturedItem.canonical? : CapturedItem → Option CanonicalItem
  | .canonical item => some item
  | .rawPrompt _ => none

def requestOf (requestId model : PyStr) (decoded : List CapturedItem) :
    Replayed CapturedRequest :=
  match decoded.any CapturedItem.isRaw, decoded with
  | true, [.rawPrompt item] => do
      let requestId ← requireNonBlank "request_id must not be empty" (some (.str requestId))
      let model ← requireNonBlank "model must not be empty" (some (.str model))
      return .rawPrompt ⟨requestId.1, model.1, item, requestId.2, model.2⟩
  | true, _ => .error (.typeError "captured raw prompt request is malformed")
  | false, items => do
      let requestId ← requireNonBlank "request_id must not be empty" (some (.str requestId))
      let model ← requireNonBlank "model must not be empty" (some (.str model))
      return .canonical ⟨requestId.1, model.1, items.filterMap CapturedItem.canonical?,
        requestId.2, model.2⟩

def requireList (message : String) : Option JsonValue → Replayed (List JsonValue)
  | some (.list items) => .ok items
  | _ => .error (.typeError message)

def decodeItems (value : Option JsonValue) : Replayed (List CapturedItem) := do
  let items ← requireList "captured canonical request is malformed" value
  items.mapM fun item => decodeItem (some item)

def decodeRequest (value : JsonObject) : Replayed CapturedRequest := do
  let requestId ← requireText "captured canonical request is malformed"
    (value.get? (py "request_id"))
  let model ← requireText "captured canonical request is malformed" (value.get? (py "model"))
  let decoded ← decodeItems (value.get? (py "items"))
  requestOf requestId model decoded

def replayRequest (record : JsonObject) : Replayed CapturedRequest := do
  requireFull record
  let value ← requireObject "full capture is missing canonical request"
    (record.get? (py "request"))
  decodeRequest value

def replayEvents (record : JsonObject) : Replayed (List ServingEvent) := do
  requireFull record
  let values ← requireList "full capture is missing canonical events" (record.get? (py "events"))
  values.mapM decodeEvent

end ExQServe.Observability
