import ExQServe.Model.Qwen.Plain

/-! # The end of a Tool region

What `model/qwen.py` does with a decoder's result: the calls it publishes, and
the text after the region, which is read again with its verified markers. -/

namespace ExQServe.Model.Qwen

open ExQServe.Search ExQServe.Emission ExQServe.ToolWire Emitting

variable {δ : Type} (config : ParserConfig δ)

def callDigestSource (index : Nat) : PyStr := config.requestId ++ chr '\x00' :: pyNat index

def deterministicCallId (index : Nat) : PyStr :=
  py "call_" ++ (config.sha256Hexdigest (callDigestSource config index)).take 24

theorem deterministicCallId_nonBlank (index : Nat) :
    NonBlank (deterministicCallId config index) :=
  nonBlank_iff.mpr ⟨chr 'c', by simp [deterministicCallId, py], by decide⟩

def publishToolCall (call : DecodedToolRegionCall) : Parsing δ Unit := do
  let index ← read (·.callIndex)
  if ¬PyStr.utf8Encodable config.requestId then fail .unicodeEncode
  else
    let callId := deterministicCallId config index
    emit (.toolCallStarted config.requestId callId call.name index)
    emit (.toolCallArgumentsDelta config.requestId callId call.argumentsJson index)
    emit (.toolCallCompleted config.requestId
      ⟨callId, call.name, call.argumentsJson, index, deterministicCallId_nonBlank config index,
        call.nameNonBlank⟩)
    change fun parser => { parser with callIndex := parser.callIndex + 1 }

def publishToolCalls : List DecodedToolRegionCall → Parsing δ Unit
  | [] => pure ()
  | call :: calls => do
      publishToolCall config call
      publishToolCalls calls

/-! ## Replay -/

/-- A stretch of the remainder that is replayed on its own: a verified marker with
its token, or an opener the decoder took for text. -/
structure ReplayStretch where
  start : Nat
  stop : Nat
  verified : Option (PyStr × Nat)
deriving DecidableEq, Repr

def plainSegment (text : PyStr) (literalToolOpener : Bool) : QwenNativeReplaySegment :=
  ⟨text, none, none, literalToolOpener⟩

/-- The verified markers that lie in the remainder, at their offsets in it. -/
def retainedStretches (remainder : PyStr) (remainderStart : Int) :
    List SharedToolNativeMarker → ParserResult (List ReplayStretch)
  | [] => .ok []
  | marker :: markers =>
      if (marker.start : Int) < remainderStart then
        .error (.runtimeError "shared Tool marker crosses the decoder remainder boundary")
      else
        let start := (marker.start - remainderStart).toNat
        let stop := (marker.stop - remainderStart).toNat
        if remainder.length < stop ∨ remainder.slice start stop ≠ marker.marker then
          .error (.runtimeError "shared Tool remainder lost native marker alignment")
        else do
          let stretches ← retainedStretches remainder remainderStart markers
          return ⟨start, stop, some (marker.marker, marker.nativeId)⟩ :: stretches

def literalStretches (retained : List ReplayStretch) (offsets : List Nat) :
    List ReplayStretch :=
  (offsets.filter fun offset =>
      !retained.any fun stretch =>
        decide (stretch.start ≤ offset ∧ offset < stretch.stop)).map
    fun offset => ⟨offset, offset + toolOpen.length, none⟩

def replaySegmentsFrom (remainder : PyStr) :
    Nat → List ReplayStretch → ParserResult (List QwenNativeReplaySegment)
  | cursor, [] =>
      .ok (if cursor < remainder.length then [plainSegment (remainder.drop cursor) false]
        else [])
  | cursor, stretch :: stretches =>
      if stretch.start < cursor then
        .error (.runtimeError "shared Tool replay stretches overlap")
      else do
        let segments ← replaySegmentsFrom remainder stretch.stop stretches
        let before :=
          if cursor < stretch.start then
            [plainSegment (remainder.slice cursor stretch.start) false]
          else []
        let segment : QwenNativeReplaySegment :=
          match stretch.verified with
          | none => plainSegment (remainder.slice stretch.start stretch.stop) true
          | some (marker, nativeId) => ⟨marker, some marker, some nativeId, false⟩
        return before ++ segment :: segments

def sharedRemainderReplaySegments (parser : QwenIncrementalParser δ) (remainder : PyStr)
    (literalToolOpenOffsets : List Nat) : ParserResult (List QwenNativeReplaySegment) := do
  if remainder = [] ∨ parser.sharedToolNativeMarkers = [] then .ok []
  else
    let remainderStart : Int := parser.sharedToolStreamChars - remainder.length
    let retained := parser.sharedToolNativeMarkers.filter (remainderStart < ·.stop)
    if retained = [] then .ok []
    else
      let verified ← retainedStretches remainder remainderStart retained
      let stretches := verified ++ literalStretches verified literalToolOpenOffsets
      replaySegmentsFrom remainder 0 (stretches.mergeSort (·.start ≤ ·.start))

/-! ## Results -/

def publishSharedToolResult (result : ToolRegionDecodeResult) : Parsing δ Unit := do
  publishToolCalls config result.calls
  let parser ← read id
  match sharedRemainderReplaySegments parser result.remainder
      result.literalToolOpenOffsets with
  | .error failure => fail failure
  | .ok nativeReplay =>
      restoreAfterTool
      change fun parser =>
        if nativeReplay = [] then
          { parser with buffer := result.remainder }.setLiteralToolOpenOffsets
            result.literalToolOpenOffsets
        else
          { parser with buffer := [], pendingNativeReplay := nativeReplay
            }.setLiteralToolOpenOffsets []

def toolScopeLiteralFallbackAllowed (parser : QwenIncrementalParser δ)
    (result : ToolRegionDecodeResult) : Bool :=
  if parser.callIndex ≠ 0 ∨ parser.mode ≠ .tool ∨ result.calls ≠ [] ∨ result.rawRegion = []
  then false
  else if config.toolChoice ≠ some .auto then false
  else
    config.context.all fun context =>
      context.hardConstraintInstalled ≠ some true && context.generationGuarantee = .none

def finishTool : Parsing δ Bool := do
  let parser ← read id
  if parser.buffer = [] then pure () else processTool config
  let parser ← read id
  match config.sharedToolDecoderTemplate, parser.activeToolDecoder with
  | some decoder, some active =>
      match decoder.finish active with
      | .error failure => fail failure
      | .ok result =>
          if result.complete then
            publishSharedToolResult config result
            pure false
          else
            let restoreLiteral :=
              result.issueCode = some "raw_boundary_ambiguous" &&
                toolScopeLiteralFallbackAllowed config parser result
            change fun parser =>
              if result.issueCode = some "raw_boundary_ambiguous" then
                { parser with protocolTerminalIssue := some (.unresolvedTool restoreLiteral) }
              else if result.issueCode = some "compatibility_semantic_work_exceeded" then
                { parser with protocolTerminalIssue := some .toolHoldLimit }
              else { parser with hadIncompleteTool := true }
            restoreAfterTool
            if restoreLiteral then
              emitContent config result.rawRegion
              pure true
            else pure true
  | _, _ =>
      fail (.runtimeError "Qwen Tool mode requires an active shared Tool-region decoder")

end ExQServe.Model.Qwen
