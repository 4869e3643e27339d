import ExQServe.Agent.Tools
import ExQServe.Model.Qwen.Boundary

/-! # Qwen parser state

The fields of `QwenIncrementalParser` in `model/qwen.py`, and the operations that
open and close channels and enter a Tool region. -/

namespace ExQServe.Model.Qwen

open ExQServe.Search ExQServe.Emission ExQServe.ToolWire

inductive QwenMode
  | text
  | reasoning
  | tool
deriving DecidableEq, Repr

/-! ## What a parser is created with -/

/-- The decoder stands for `tool_region_decoder`, or for what the factory makes of
the Tool policy. -/
structure ParserCreationContext (δ : Type) where
  hardConstraintInstalled : Option Bool
  triggerTokenIds : List Nat
  generationGuarantee : GenerationGuarantee
  toolRegionDecoder : Option (ToolRegionDecoder δ)

structure ParserConfig (δ : Type) where
  requestId : PyStr
  startInReasoning : Bool
  toolPolicy : Option ToolPolicy
  context : Option (ParserCreationContext δ)
  sha256Hexdigest : PyStr → PyStr
  requestIdNonBlank : NonBlank requestId

namespace ParserConfig

variable {δ : Type} (config : ParserConfig δ)

def sharedToolDecoderTemplate : Option (ToolRegionDecoder δ) :=
  config.context.bind (·.toolRegionDecoder)

def toolChoice : Option ToolChoiceMode := config.toolPolicy.map (·.choice.mode)

def constraintTriggerTokenIds : List Nat :=
  config.context.elim [] (·.triggerTokenIds)

def requiresNativeTokenProvenance : Bool :=
  config.sharedToolDecoderTemplate.isSome &&
    config.context.any (·.hardConstraintInstalled = some true)

end ParserConfig

/-! ## The state -/

/-- A verified marker inside a Tool region, at its offsets in the region. -/
structure SharedToolNativeMarker where
  start : Nat
  stop : Nat
  marker : PyStr
  nativeId : Nat
deriving DecidableEq, Repr

structure QwenNativeReplaySegment where
  text : PyStr
  verifiedMarker : Option PyStr
  nativeId : Option Nat
  literalToolOpener : Bool
deriving DecidableEq, Repr

/-- A chunk and its verified spans, when it has any provenance. -/
abbrev NativeChunk := PyStr × Option (List NativeTokenSpan)

structure QwenIncrementalParser (δ : Type) where
  sharedToolDecoder : Option δ
  activeToolDecoder : Option δ
  pendingNativeToolTriggerId : Option Nat
  sharedToolStreamChars : Nat
  sharedToolNativeMarkers : List SharedToolNativeMarker
  buffer : PyStr
  literalToolOpenOffsets : List Nat
  literalToolBufferOrigin : Nat
  mode : QwenMode
  textOpen : Bool
  textValue : PyStr
  reasoningOpen : Bool
  reasoningValue : PyStr
  callIndex : Nat
  toolReturnMode : QwenMode
  pendingNativeReplay : List QwenNativeReplaySegment
  pendingInlineNativeChunks : List NativeChunk
  hadIncompleteTool : Bool
  protocolTerminalIssue : Option ParserTerminalIssue
  markerBoundaries : MarkerBoundaryTracker
  outsideToolLiteralPending : Option PyStr
  finished : Bool
deriving DecidableEq

/-- What a parser does, in order: the events it emits, and two marks that no code
reads, for the markers it executes and the Tool regions it enters. -/
inductive ParserAction
  | emitted (event : GenerationEvent)
  | switched (marker : PyStr)
  | enteredTool
deriving DecidableEq

def ParserAction.event? : ParserAction → Option GenerationEvent
  | .emitted event => some event
  | .switched _ => none
  | .enteredTool => none

def eventsOf (log : List ParserAction) : List GenerationEvent :=
  log.filterMap ParserAction.event?

abbrev Parsing (δ α : Type) : Type :=
  Emitting ParserFailure (QwenIncrementalParser δ) ParserAction α

open Emitting

section

variable {δ : Type}

def boundaries {α : Type}
    (part : MarkerBoundaryTracker → ParserResult (α × MarkerBoundaryTracker)) :
    Parsing δ α :=
  within (·.markerBoundaries) (fun next parser => { parser with markerBoundaries := next })
    part

def emit (event : GenerationEvent) : Parsing δ Unit := write (.emitted event)

def bisectLeft (values : List Nat) (value : Nat) : Nat :=
  search values.length 0 values.length
where
  search : Nat → Nat → Nat → Nat
    | 0, low, _ => low
    | fuel + 1, low, high =>
        if low < high then
          let middle := (low + high) / 2
          if values.getD middle 0 < value then search fuel (middle + 1) high
          else search fuel low middle
        else low

namespace QwenIncrementalParser

def fresh (config : ParserConfig δ) : QwenIncrementalParser δ where
  sharedToolDecoder := config.sharedToolDecoderTemplate.map (·.fresh 0)
  activeToolDecoder := none
  pendingNativeToolTriggerId := none
  sharedToolStreamChars := 0
  sharedToolNativeMarkers := []
  buffer := []
  literalToolOpenOffsets := []
  literalToolBufferOrigin := 0
  mode := if config.startInReasoning then .reasoning else .text
  textOpen := false
  textValue := []
  reasoningOpen := false
  reasoningValue := []
  callIndex := 0
  toolReturnMode := .text
  pendingNativeReplay := []
  pendingInlineNativeChunks := []
  hadIncompleteTool := false
  protocolTerminalIssue := none
  markerBoundaries := .fresh
  outsideToolLiteralPending := none
  finished := false

def setLiteralToolOpenOffsets (parser : QwenIncrementalParser δ) (offsets : List Nat) :
    QwenIncrementalParser δ :=
  { parser with literalToolOpenOffsets := offsets, literalToolBufferOrigin := 0 }

def literalToolVetoAtBufferStart (parser : QwenIncrementalParser δ) : Bool :=
  let index := bisectLeft parser.literalToolOpenOffsets parser.literalToolBufferOrigin
  parser.literalToolOpenOffsets[index]? = some parser.literalToolBufferOrigin

end QwenIncrementalParser

def consumeBufferPrefix (count : Nat) : Parsing δ Unit := do
  let parser ← read id
  if parser.buffer.length < count then
    fail (.runtimeError "Qwen plain buffer consumption exceeded available text")
  else
    change fun parser =>
      { parser with
        buffer := parser.buffer.drop count
        literalToolBufferOrigin := parser.literalToolBufferOrigin + count }

end

/-! ## Channels -/

section

variable {δ : Type} (config : ParserConfig δ)

def emitContent (text : PyStr) : Parsing δ Unit := do
  if text = [] then pure ()
  else
    change fun parser =>
      { parser with markerBoundaries := parser.markerBoundaries.observeContent text }
    let parser ← read id
    if parser.mode = .reasoning then
      if parser.reasoningOpen then pure ()
      else
        emit (.reasoningStarted config.requestId)
        change fun parser => { parser with reasoningOpen := true, reasoningValue := [] }
      change fun parser => { parser with reasoningValue := parser.reasoningValue ++ text }
      emit (.reasoningDelta config.requestId text)
    else
      if parser.textOpen then pure ()
      else
        emit (.textStarted config.requestId)
        change fun parser => { parser with textOpen := true, textValue := [] }
      change fun parser => { parser with textValue := parser.textValue ++ text }
      emit (.textDelta config.requestId text)

def closeCurrentChannel : Parsing δ Unit := do
  let parser ← read id
  if parser.mode = .reasoning ∧ parser.reasoningOpen then
    emit (.reasoningCompleted config.requestId parser.reasoningValue)
    change fun parser => { parser with reasoningOpen := false, reasoningValue := [] }
  else if parser.mode = .text ∧ parser.textOpen then
    emit (.textCompleted config.requestId parser.textValue)
    change fun parser => { parser with textOpen := false, textValue := [] }
  else pure ()

def switchChannel (marker : PyStr) (mode : QwenMode) : Parsing δ Unit := do
  closeCurrentChannel config
  change fun parser => { parser with mode := mode }
  write (.switched marker)

/-! ## The Tool region -/

def feedActiveToolDecoder (text : PyStr) : Parsing δ Unit := do
  let parser ← read id
  match config.sharedToolDecoderTemplate, parser.activeToolDecoder with
  | some decoder, some active =>
      match decoder.feed active text with
      | .error failure => fail failure
      | .ok fed => change fun parser => { parser with activeToolDecoder := some fed }
  | _, _ =>
      fail (.runtimeError "Qwen Tool mode requires an active shared Tool-region decoder")

def enterTool (verifiedNativeOpener : Bool) : Parsing δ Unit := do
  closeCurrentChannel config
  write .enteredTool
  change fun parser =>
    { parser with
      toolReturnMode := parser.mode
      mode := .tool
      literalToolOpenOffsets := []
      literalToolBufferOrigin := 0 }
  match config.sharedToolDecoderTemplate with
  | none => fail (.runtimeError "Qwen Tool mode requires a shared Tool-region decoder")
  | some decoder =>
      if config.requiresNativeTokenProvenance ∧ ¬verifiedNativeOpener then
        fail (.nativeTokenProvenance
          "Qwen constrained Tool opener requires verified native provenance")
      else
        change fun parser =>
          { parser with
            sharedToolDecoder := none
            activeToolDecoder :=
              some (parser.sharedToolDecoder.getD (decoder.fresh parser.callIndex))
            sharedToolStreamChars := toolOpen.length
            sharedToolNativeMarkers := [] }
        feedActiveToolDecoder config toolOpen

def restoreAfterTool : Parsing δ Unit :=
  change fun parser =>
    { parser with
      mode := parser.toolReturnMode
      activeToolDecoder := none
      sharedToolStreamChars := 0
      sharedToolNativeMarkers := [] }

/-- `_process_tool`. It never reports progress, so the loops around it run once. -/
def processTool : Parsing δ Unit := do
  let text ← read (·.buffer)
  change fun parser => { parser with buffer := [] }
  feedActiveToolDecoder config text
  change fun parser =>
    { parser with sharedToolStreamChars := parser.sharedToolStreamChars + text.length }

end

end ExQServe.Model.Qwen
