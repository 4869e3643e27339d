import ExQServe.Model.Qwen.State

/-! # Unverified Qwen text

`_process_plain` and `feed` of `model/qwen.py`: markers found in the text itself. -/

namespace ExQServe.Model.Qwen

open ExQServe.Search ExQServe.Emission Emitting

variable {δ : Type} (config : ParserConfig δ)

def functionOpen : PyStr := py "<function="

def longestPartialMarkerSuffix (text : PyStr) : Nat := longestPartial plainMarkers text

def emitMarker (marker : PyStr) : Parsing δ Unit := do
  emitContent config marker
  consumeBufferPrefix marker.length

def executePlainMarker (marker : PyStr) : Parsing δ Bool := do
  if marker = toolOpen then
    let buffer ← read (·.buffer)
    let candidate := PyStr.lstrip (buffer.drop marker.length)
    if functionOpen <+: candidate then
      consumeBufferPrefix marker.length
      enterTool config false
      pure true
    else if candidate <+: functionOpen then pure false
    else
      emitMarker config marker
      pure true
  else
    consumeBufferPrefix marker.length
    let mode ← read (·.mode)
    if marker = thinkOpen then
      if mode = .reasoning then pure true
      else
        switchChannel config marker .reasoning
        pure true
    else if mode = .reasoning then
      switchChannel config marker .text
      pure true
    else pure true

def followDisposition (marker : PyStr) : MarkerDisposition → Parsing δ Bool
  | .pending => pure false
  | .literal => do
      emitMarker config marker
      pure true
  | .structural => executePlainMarker config marker
  | .failClosed => executePlainMarker config marker

/-- Whether the buffer got shorter and the parser should look again. -/
def processPlain (final : Bool) : Parsing δ Bool := do
  let parser ← read id
  match firstToken parser.buffer plainMarkers with
  | some (position, marker) =>
      if 0 < position then
        emitContent config (parser.buffer.take position)
        consumeBufferPrefix position
        pure true
      else if marker = toolOpen ∧ parser.literalToolVetoAtBufferStart then
        emitMarker config marker
        pure true
      else
        let disposition ← boundaries fun tracker =>
          .ok (tracker.classifyPlainMarker parser.buffer marker final)
        followDisposition config marker disposition
  | none =>
      let safeLength := parser.buffer.length - longestPartialMarkerSuffix parser.buffer
      if 0 < safeLength then
        emitContent config (parser.buffer.take safeLength)
        consumeBufferPrefix safeLength
        pure false
      else pure false

def processBuffer : Parsing δ Bool := do
  let mode ← read (·.mode)
  if mode = .tool then
    processTool config
    pure false
  else processPlain config false

def drainBuffer : Parsing δ Unit :=
  repeatWhile .recursion (·.buffer.length) (processBuffer config)

def feed (chunk : PyStr) : Parsing δ Unit := do
  let parser ← read id
  if parser.finished then fail (.runtimeError "cannot feed a finished Qwen parser")
  else
    match parser.outsideToolLiteralPending with
    | some pending =>
        change fun parser =>
          { parser with outsideToolLiteralPending := some (pending ++ chunk) }
    | none =>
        change fun parser => { parser with buffer := parser.buffer ++ chunk }
        drainBuffer config

end ExQServe.Model.Qwen
