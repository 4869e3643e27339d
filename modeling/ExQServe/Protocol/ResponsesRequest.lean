import ExQServe.Protocol.OpenAIContent

/-! # Responses input

The model of the instructions and the input items of
`protocol/openai/responses_request.py`. -/

namespace ExQServe.OpenAI.Responses

open ExQServe.Model

/-! ## Content -/

def messageWire (kindMessage : PyStr) : ContentWire where
  code := py "invalid_input_message"
  kindCode := py "unsupported_content_part"
  textTypes := [py "text", py "input_text", py "output_text"]
  listMessage := py "Message content must be text."
  textMessage := py "Text content part must contain a string."
  kindMessage := kindMessage

def messageText : JsonValue → PyStr → Parsed PyStr :=
  (messageWire (py "Only text content is supported for this message role.")).text

def inputImage (part : JsonObject) (param : PyStr) : Parsed ImageContentPart :=
  readImage (member part (py "image_url")) (member part (py "detail"))
    (if (part.get? (py "file_id")).isSome then
      invalidRequest (py "unsupported_image_file")
        (py "input_image.file_id is not supported; provide image_url instead.")
        (some (param ++ py ".file_id"))
    else
      invalidRequest (py "invalid_image_url")
        (py "input_image.image_url must be a non-empty string.")
        (some (param ++ py ".image_url")))
    (invalidRequest (py "invalid_image_detail")
      (py "input_image.detail must be auto, low, or high.") (some (param ++ py ".detail")))

def userMessageContent : JsonValue → PyStr → Parsed MixedContent :=
  { messageWire (py "Only text and input_image user content parts are supported.") with
    listMessage := py "User message content must be text or a non-empty content-part array."
    }.mixed (py "input_image") inputImage

def functionOutputWire : ContentWire where
  code := py "unsupported_function_output"
  kindCode := py "unsupported_function_output"
  textTypes := [py "text", py "input_text", py "output_text"]
  listMessage :=
    py "Function output must be a string or a non-empty text/image content-part array."
  textMessage := py "Function-output text content part must contain a string."
  kindMessage := py "Only text and input_image function-output content parts are supported."

def functionOutputContent : JsonValue → PyStr → Parsed MixedContent :=
  functionOutputWire.mixed (py "input_image") inputImage

def reasoningWire : ContentWire where
  code := py "invalid_reasoning_item"
  kindCode := py "unsupported_content_part"
  textTypes := [py "reasoning_text"]
  listMessage := py "Reasoning content must be an array."
  textMessage := py "Reasoning text must be a string."
  kindMessage := py "Only reasoning_text content is supported for reasoning history."

/-- `_reasoning_text`: a string is no array. -/
def reasoningText (value : JsonValue) (param : PyStr) : Parsed PyStr :=
  match value with
  | .list _ => reasoningWire.text value param
  | _ => .error (reasoningWire.malformed param)

/-! ## Items -/

/-- `role_map` -/
def roleOf (role : PyStr) : Option MessageRole :=
  MessageRole.members.find? fun known => decide (known.value = role)

/-- What `_parse_input` knows between two items. -/
structure InputState where
  callIndex : Nat
  assistantTextInSegment : Bool
  assistantToolCallInSegment : Bool
deriving DecidableEq

def InputState.initial : InputState := ⟨0, false, false⟩

def parseMessage (state : InputState) (role : MessageRole) (text : PyStr) :
    CanonicalItem × InputState :=
  (.message ⟨role, text⟩,
    if role = .assistant then
      { state with
        assistantTextInSegment := state.assistantTextInSegment || decide (NonBlank text) }
    else .initial)

def parseReasoning (state : InputState) (text : PyStr) : CanonicalItem × InputState :=
  let startsNewSegment := state.assistantTextInSegment && !state.assistantToolCallInSegment
  (.reasoning ⟨text, startsNewSegment⟩,
    if startsNewSegment then
      { state with assistantTextInSegment := false, assistantToolCallInSegment := false }
    else state)

def parseFunctionCall (state : InputState) (item : JsonObject) (path : PyStr) :
    Parsed (CanonicalItem × InputState) :=
  let malformed := invalidRequest (py "invalid_function_call")
    (py "Function call item is malformed.") (some path)
  match member item (py "call_id"), member item (py "name"), member item (py "arguments") with
  | .str callId, .str name, .str arguments =>
      if visible : NonBlank callId ∧ NonBlank name then
        .ok (.toolCall ⟨callId, name, arguments, state.callIndex, visible.1, visible.2⟩,
          { state with callIndex := state.callIndex + 1, assistantToolCallInSegment := true })
      else .error malformed
  | _, _, _ => .error malformed

def parseFunctionOutput (item : JsonObject) (path : PyStr) :
    Parsed (CanonicalItem × InputState) :=
  let unnamed := invalidRequest (py "invalid_function_output")
    (py "Function output requires call_id.") (some (path ++ py ".call_id"))
  match member item (py "call_id") with
  | .str callId =>
      if visible : NonBlank callId then do
        match ← functionOutputContent (member item (py "output")) (path ++ py ".output") with
        | .text text => .ok (.toolResult ⟨callId, text, false, visible⟩, .initial)
        | .parts parts someImage =>
            .ok (.multimodalToolResult ⟨callId, parts, false, visible, someImage⟩, .initial)
      else .error unnamed
  | _ => .error unnamed

def parseUserMessage (content : JsonValue) (path : PyStr) :
    Parsed (CanonicalItem × InputState) := do
  match ← userMessageContent content (path ++ py ".content") with
  | .text text => .ok (.message ⟨.user, text⟩, .initial)
  | .parts parts someImage =>
      .ok (.multimodalMessage ⟨.user, parts, rfl, someImage⟩, .initial)

def parseMessageItem (state : InputState) (item : JsonObject) (path : PyStr) :
    Parsed (CanonicalItem × InputState) :=
  let unsupported := invalidRequest (py "unsupported_message_role")
    (py "Unsupported Responses message role.") (some (path ++ py ".role"))
  match member item (py "role") with
  | .str role =>
      match roleOf role with
      | none => .error unsupported
      | some .user => parseUserMessage (member item (py "content")) path
      | some role => do
          let text ← messageText (member item (py "content")) (path ++ py ".content")
          .ok (parseMessage state role text)
  | _ => .error unsupported

def parseItem (state : InputState) (index : Nat) (rawItem : JsonValue) :
    Parsed (CanonicalItem × InputState) := do
  let path := entryPath (py "input") index
  let item ← asDict rawItem (py "invalid_input") path
  let unsupported := invalidRequest (py "unsupported_input_item")
    (py "Unsupported Responses input item type.") (some (path ++ py ".type"))
  match member item (py "type") with
  | .null => parseMessageItem state item path
  | .str itemType =>
      if itemType = py "message" then parseMessageItem state item path
      else if itemType = py "reasoning" then do
        let text ← reasoningText (member item (py "content")) (path ++ py ".content")
        .ok (parseReasoning state text)
      else if itemType = py "function_call" then parseFunctionCall state item path
      else if itemType = py "function_call_output" then parseFunctionOutput item path
      else .error unsupported
  | _ => .error unsupported

def parseItems : InputState → Nat → List JsonValue → Parsed (List CanonicalItem × InputState)
  | state, _, [] => .ok ([], state)
  | state, index, rawItem :: rawItems => do
      let (item, next) ← parseItem state index rawItem
      let (items, last) ← parseItems next (index + 1) rawItems
      .ok (item :: items, last)

def parseInput : JsonValue → Parsed (List CanonicalItem)
  | .str text => .ok [.message ⟨.user, text⟩]
  | .list (first :: others) => (parseItems .initial 0 (first :: others)).map Prod.fst
  | _ => .error (invalidRequest (py "invalid_input")
      (py "input must be a string or non-empty item array.") (some (py "input")))

end ExQServe.OpenAI.Responses
