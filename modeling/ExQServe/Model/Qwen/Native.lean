import ExQServe.Model.Qwen.Region

/-! # Text with verified tokens

`feed_with_native_tokens` of `model/qwen.py` and what it calls: markers that the
tokenizer vouches for, and text parked until a marker can be told from a quoted
one. -/

namespace ExQServe.Model.Qwen

open ExQServe.Search ExQServe.Emission Emitting

variable {δ : Type} (config : ParserConfig δ)

def toolModeNativeMarkers : List PyStr := plainMarkers ++ [py "</tool_call>"]

/-! ## Markers -/

def validateConstraintToolTrigger (marker : PyStr) (nativeId : Option Nat) :
    Parsing δ Unit := do
  if config.sharedToolDecoderTemplate.isNone ∨ marker ≠ toolOpen then pure ()
  else if config.constraintTriggerTokenIds = [] then pure ()
  else
    match nativeId with
    | none =>
        fail (.nativeTokenProvenance
          "Qwen constrained Tool opener lost native token identity")
    | some nativeId =>
        if nativeId ∈ config.constraintTriggerTokenIds then pure ()
        else
          fail (.nativeTokenConstraintIntegrity
            "Qwen native Tool opener token does not match the installed constraint trigger")

def applyNativeMarker (marker : PyStr) : Parsing δ Unit := do
  let mode ← read (·.mode)
  if marker = toolOpen then enterTool config true
  else if marker = thinkOpen then
    if mode = .reasoning then emitContent config marker
    else switchChannel config marker .reasoning
  else if marker = thinkClose then
    if mode = .reasoning then switchChannel config marker .text
    else emitContent config marker
  else pure ()

def applyMarkerDisposition (marker : PyStr) (disposition : MarkerDisposition) :
    Parsing δ Unit :=
  match disposition with
  | .pending => pure ()
  | .literal => emitContent config marker
  | .failClosed =>
      fail (.nativeTokenProvenance
        "Qwen marker provenance was unavailable outside a definite literal context")
  | .structural => applyNativeMarker config marker

def hasPendingInlineNativeMarker : Parsing δ Bool :=
  read (·.markerBoundaries.hasPendingInlineNativeMarker)

def classifyMarkerCandidate (marker followingText : PyStr) (verified : Bool) :
    Parsing δ MarkerDisposition := do
  let mode ← read (·.mode)
  let provisional ←
    if verified ∧ marker = thinkClose ∧ mode = .reasoning then
      boundaries fun tracker => tracker.resolveProvisionalReasoningClose followingText
    else pure none
  match provisional with
  | some disposition => pure disposition
  | none =>
      boundaries fun tracker => tracker.classifyNativeMarker marker followingText verified

/-- Keep the token of a verified Tool opener for the check of the trigger. -/
def guardToolTrigger (marker : PyStr) (verified : Bool) (nativeId : Option Nat)
    (disposition : MarkerDisposition) : Parsing δ Unit := do
  let pendingInline ← hasPendingInlineNativeMarker
  if verified ∧ marker = toolOpen ∧ config.sharedToolDecoderTemplate.isSome then
    if disposition = .structural then validateConstraintToolTrigger config marker nativeId
    else if disposition = .pending ∧ ¬pendingInline then
      match nativeId with
      | none =>
          fail (.nativeTokenProvenance
            "Qwen constrained Tool opener lost native token identity")
      | some nativeId =>
          change fun parser => { parser with pendingNativeToolTriggerId := some nativeId }
    else pure ()
  else pure ()

def handleMarkerCandidate (marker followingText : PyStr) (verified : Bool)
    (nativeId : Option Nat) : Parsing δ MarkerDisposition := do
  let disposition ← classifyMarkerCandidate marker followingText verified
  guardToolTrigger config marker verified nativeId disposition
  applyMarkerDisposition config marker disposition
  pure disposition

/-! ## Segments -/

def recordSharedToolNativeMarker (text : PyStr) (verifiedMarker : Option PyStr)
    (nativeId : Option Nat) : Parsing δ Unit := do
  let parser ← read id
  match parser.activeToolDecoder, verifiedMarker with
  | some _, some marker =>
      match nativeId with
      | none => fail (.nativeTokenProvenance "shared Tool marker lost native token identity")
      | some nativeId =>
          let start := parser.sharedToolStreamChars + parser.buffer.length
          change fun parser =>
            { parser with
              sharedToolNativeMarkers :=
                parser.sharedToolNativeMarkers ++ [⟨start, start + text.length, marker, nativeId⟩] }
  | _, _ => pure ()

/-- `_feed_native_text_segment` without its draining of a replay. -/
def feedSegment (text : PyStr) (verifiedMarker : Option PyStr) (nativeId : Option Nat) :
    Parsing δ Unit := do
  let mode ← read (·.mode)
  if text = [] then pure ()
  else if mode = .tool then
    recordSharedToolNativeMarker text verifiedMarker nativeId
    change fun parser => { parser with buffer := parser.buffer ++ text }
    processTool config
  else emitContent config text

def validateNativeSpansFrom (chunk : PyStr) : Nat → List NativeTokenSpan → Bool
  | _, [] => true
  | cursor, span :: spans =>
      cursor ≤ span.start && span.stop ≤ chunk.length &&
        chunk.slice span.start span.stop = span.text &&
          validateNativeSpansFrom chunk span.stop spans

def spansMismatch : ParserFailure :=
  .valueError "native token spans do not match the supplied chunk"

def validateNativeSpans (chunk : PyStr) (spans : Option (List NativeTokenSpan)) :
    Parsing δ Unit :=
  if spans.all (validateNativeSpansFrom chunk 0) then pure () else fail spansMismatch

def NativeTokenSpan.rebase (span : NativeTokenSpan) (start : Nat)
    (inside : start ≤ span.start) : NativeTokenSpan where
  start := span.start - start
  stop := span.stop - start
  tokenId := span.tokenId
  text := span.text
  ordered := by have ordered := span.ordered; omega
  textNonempty := span.textNonempty

def sliceSpans (start : Nat) : List NativeTokenSpan → ParserResult (List NativeTokenSpan)
  | [] => .ok []
  | span :: spans =>
      if span.stop ≤ start then sliceSpans start spans
      else if inside : start ≤ span.start then do
        let rebased ← sliceSpans start spans
        return NativeTokenSpan.rebase span start inside :: rebased
      else .error (.valueError "native token span crosses a deferred Qwen marker boundary")

def sliceNativeSuffix (chunk : PyStr) (spans : Option (List NativeTokenSpan)) (start : Nat) :
    ParserResult NativeChunk :=
  match spans with
  | none => .ok (chunk.drop start, none)
  | some spans => do
      let rebased ← sliceSpans start spans
      return (chunk.drop start, some rebased)

def bufferPendingInlineNativeChunk (chunk : PyStr) (spans : Option (List NativeTokenSpan)) :
    Parsing δ Unit := do
  validateNativeSpans chunk spans
  if chunk = [] then pure ()
  else
    change fun parser =>
      { parser with
        pendingInlineNativeChunks := parser.pendingInlineNativeChunks ++ [(chunk, spans)] }

/-! ## Replay -/

/-- The text of some segments, with a span for each verified marker. -/
def nativeReplayChunkFrom :
    Nat → List QwenNativeReplaySegment → ParserResult (PyStr × List NativeTokenSpan)
  | _, [] => .ok ([], [])
  | cursor, segment :: segments =>
      match segment.verifiedMarker with
      | none => do
          let (text, spans) ← nativeReplayChunkFrom (cursor + segment.text.length) segments
          return (segment.text ++ text, spans)
      | some marker =>
          match segment.nativeId with
          | none => .error (.runtimeError "Qwen replay marker lost native provenance")
          | some nativeId =>
              if segment.text ≠ marker then
                .error (.runtimeError "Qwen replay marker lost native provenance")
              else if nonempty : segment.text ≠ [] then do
                let (text, spans) ←
                  nativeReplayChunkFrom (cursor + segment.text.length) segments
                return (segment.text ++ text,
                  ⟨cursor, cursor + segment.text.length, nativeId, segment.text,
                    Nat.lt_add_of_pos_right (List.length_pos_iff.mpr nonempty), nonempty⟩ ::
                      spans)
              else .error (.valueError "end must be greater than start")

def feedReplayedPlainText (text : PyStr) (literalToolOpener : Bool) : Parsing δ Unit := do
  let mode ← read (·.mode)
  if text = [] then pure ()
  else if mode = .tool then feedSegment config text none none
  else
    change fun parser =>
      if literalToolOpener then
        { parser with
          literalToolOpenOffsets := parser.literalToolOpenOffsets ++
            [parser.literalToolBufferOrigin + parser.buffer.length] }
      else parser
    change fun parser => { parser with buffer := parser.buffer ++ text }
    drainBuffer config

def parkReplay (segments : List QwenNativeReplaySegment) : Parsing δ Unit := do
  let issue ← read (·.markerBoundaries.terminalIssue)
  if issue.isSome ∨ segments = [] then pure ()
  else
    match nativeReplayChunkFrom 0 segments with
    | .error failure => fail failure
    | .ok (text, spans) => bufferPendingInlineNativeChunk text (some spans)

/-- The loop over the segments of a replay. None of them records a replay of its
own (`drainSegments_replay`), so the source's outer loop and its inner call never
find another one. -/
def drainSegments : List QwenNativeReplaySegment → Parsing δ Unit
  | [] => pure ()
  | segment :: segments => do
      let mode ← read (·.mode)
      match segment.verifiedMarker with
      | none =>
          feedReplayedPlainText config segment.text segment.literalToolOpener
          drainSegments segments
      | some marker =>
          if mode = .tool then
            feedSegment config segment.text (some marker) segment.nativeId
            drainSegments segments
          else
            let disposition ← handleMarkerCandidate config marker
              (segments.flatMap (·.text)) true segment.nativeId
            let pendingInline ← hasPendingInlineNativeMarker
            if disposition = .pending ∧ pendingInline then parkReplay segments
            else drainSegments segments

def drainPendingNativeReplay : Parsing δ Unit := do
  let segments ← read (·.pendingNativeReplay)
  change fun parser => { parser with pendingNativeReplay := [] }
  drainSegments config segments

def feedNativeTextSegment (text : PyStr) (verifiedMarker : Option PyStr)
    (nativeId : Option Nat) : Parsing δ Unit := do
  if text = [] then pure ()
  else
    let mode ← read (·.mode)
    feedSegment config text verifiedMarker nativeId
    if mode = .tool then drainPendingNativeReplay config else pure ()

def processRemainder : Parsing δ Bool := do
  let parser ← read id
  if parser.mode ≠ .tool ∧ parser.buffer ≠ [] then processPlain config false
  else pure false

def tryFinishSharedBeforeVerifiedOpener : Parsing δ Unit := do
  let parser ← read id
  match config.sharedToolDecoderTemplate.bind (·.compatibility), parser.activeToolDecoder with
  | some compatibility, some active =>
      if ¬compatibility.canProbeCompatibilityFinish active then pure ()
      else
        match compatibility.probeCompatibilityFinish active with
        | .error failure => fail failure
        | .ok (result, probed) =>
            change fun parser => { parser with activeToolDecoder := some probed }
            match result with
            | none => pure ()
            | some result =>
                publishSharedToolResult config result
                drainPendingNativeReplay config
                repeatWhile .recursion (·.buffer.length) (processRemainder config)
  | _, _ => pure ()

/-! ## Deferred markers -/

def outsideToolLiteralFallbackAllowed (parser : QwenIncrementalParser δ) : Bool :=
  parser.callIndex = 0 && parser.mode ≠ .tool &&
    config.toolChoice ≠ some .required && config.toolChoice ≠ some .named

/-- Whether the text from `marker` on was given up as literal. -/
def commitOutsideToolLiteralFallback (marker followingText : PyStr) : Parsing δ Bool := do
  let parser ← read id
  let ambiguous := parser.markerBoundaries.terminalIssue.any fun issue =>
    issue.kind = .protocolAmbiguity ∧ issue.constraintScope = .outsideTool
  if ¬ambiguous ∨ ¬outsideToolLiteralFallbackAllowed config parser then pure false
  else
    let heldText := parser.pendingInlineNativeChunks.flatMap (·.1)
    change fun parser =>
      { parser with
        pendingInlineNativeChunks := []
        pendingNativeReplay := []
        outsideToolLiteralPending := some (marker ++ heldText ++ followingText) }
    pure true

def dropPendingInline : Parsing δ Unit :=
  change fun parser =>
    { parser with pendingInlineNativeChunks := [], pendingNativeReplay := [] }

def feedChunks (again : PyStr → Option (List NativeTokenSpan) → Parsing δ Unit) :
    List NativeChunk → Parsing δ Unit
  | [] => pure ()
  | (chunk, spans) :: chunks => do
      again chunk spans
      feedChunks again chunks

/-- Whether the marker behind the barrier was told. `again` is the parser itself. -/
def resolvePendingInlineNativeMarker
    (again : PyStr → Option (List NativeTokenSpan) → Parsing δ Unit) (followingText : PyStr)
    (spans : Option (List NativeTokenSpan)) (final : Bool) : Parsing δ Bool := do
  validateNativeSpans followingText spans
  let resolved ← boundaries fun tracker =>
    tracker.resolvePendingInlineNativeMarker followingText final
  match resolved with
  | none => pure false
  | some (marker, .pending) =>
      let issue ← read (·.markerBoundaries.terminalIssue)
      if issue.isSome then
        let committed ← commitOutsideToolLiteralFallback config marker followingText
        if committed then pure false
        else
          dropPendingInline
          pure false
      else if followingText ≠ [] ∧ ¬final then
        bufferPendingInlineNativeChunk followingText spans
        pure false
      else pure false
  | some (marker, .structural) =>
      let heldChunks ← read (·.pendingInlineNativeChunks)
      dropPendingInline
      applyNativeMarker config marker
      feedChunks again heldChunks
      if followingText = [] then pure true
      else
        again followingText spans
        pure true
  | some (_, .failClosed) =>
      fail (.runtimeError "Qwen semantic barrier resolved to an unsupported disposition")
  | some (marker, .literal) =>
      let parser ← read id
      let consumed := parser.markerBoundaries.lastScanConsumedCharacters
      if followingText.length < consumed then
        fail (.runtimeError "Qwen semantic barrier returned an invalid replay boundary")
      else
        let heldText :=
          parser.pendingInlineNativeChunks.flatMap (·.1) ++ followingText.take consumed
        dropPendingInline
        emitContent config (marker ++ heldText)
        match sliceNativeSuffix followingText spans consumed with
        | .error failure => fail failure
        | .ok (remainder, remainderSpans) =>
            if remainder = [] then pure true
            else
              again remainder remainderSpans
              pure true

def resolvePendingNativeMarker (chunk : PyStr) : Parsing δ Unit := do
  let resolved ← boundaries fun tracker => .ok (tracker.resolvePendingNativeMarker chunk)
  match resolved with
  | none => pure ()
  | some (marker, disposition) =>
      let nativeId ← read (·.pendingNativeToolTriggerId)
      change fun parser => { parser with pendingNativeToolTriggerId := none }
      if disposition = .structural then validateConstraintToolTrigger config marker nativeId
      else pure ()
      applyMarkerDisposition config marker disposition

def setUnverifiedMarkerPrefix (value : PyStr) : Parsing δ Unit :=
  change fun parser =>
    { parser with
      markerBoundaries := parser.markerBoundaries.setUnverifiedMarkerPrefix value }

/-- The loop of `_resolve_unverified_marker_prefix`: how much of the chunk belongs to
the marker that `pending` may be the start of. -/
def resolvePrefixFrom (pending : PyStr) : Nat → PyStr → PyStr → Parsing δ Nat
  | consumed, combined, [] => do
      setUnverifiedMarkerPrefix combined
      pure consumed
  | consumed, combined, char :: rest => do
      let combined := combined ++ [char]
      if combined ∈ plainMarkers then
        setUnverifiedMarkerPrefix []
        let mode ← read (·.mode)
        if mode = .tool then
          feedNativeTextSegment config combined none none
          pure (consumed + 1)
        else
          let _ ← handleMarkerCandidate config combined rest false none
          pure (consumed + 1)
      else if plainMarkers.any fun marker => combined <+: marker then
        resolvePrefixFrom pending (consumed + 1) combined rest
      else
        setUnverifiedMarkerPrefix []
        feedNativeTextSegment config pending none none
        pure 0

def resolveUnverifiedMarkerPrefix (chunk : PyStr) : Parsing δ Nat := do
  let pending ← read (·.markerBoundaries.unverifiedMarkerPrefix)
  if pending = [] then pure 0
  else resolvePrefixFrom config pending 0 pending chunk

/-! ## Feeding -/

/-- The loop of `_feed_unverified_text`; every turn drops a marker, so as many turns as
there are characters are enough. -/
def feedUnverifiedFrom : Nat → PyStr → Parsing δ Unit
  | 0, _ => pure ()
  | fuel + 1, text => do
      if text = [] then pure ()
      else
        match firstToken text plainMarkers with
        | none =>
            let (stable, marker) := MarkerBoundaryTracker.splitMarkerPrefixSuffix text
            feedNativeTextSegment config stable none none
            setUnverifiedMarkerPrefix marker
        | some (position, marker) =>
            let following := text.drop (position + marker.length)
            feedNativeTextSegment config (text.take position) none none
            let mode ← read (·.mode)
            if mode = .tool then
              feedNativeTextSegment config marker none none
              feedUnverifiedFrom fuel following
            else
              let disposition ← handleMarkerCandidate config marker following false none
              let pendingInline ← hasPendingInlineNativeMarker
              if disposition = .pending ∧ pendingInline then
                bufferPendingInlineNativeChunk following none
              else feedUnverifiedFrom fuel following

def feedUnverifiedText (chunk : PyStr) : Parsing δ Unit := do
  let mode ← read (·.mode)
  if mode = .tool then feedNativeTextSegment config chunk none none
  else feedUnverifiedFrom config chunk.length chunk

def parkSuffix (chunk : PyStr) (spans : List NativeTokenSpan) (marker : PyStr)
    (stop : Nat) : Parsing δ Unit := do
  match sliceNativeSuffix chunk (some spans) stop with
  | .error failure => fail failure
  | .ok (suffix, suffixSpans) =>
      let issue ← read (·.markerBoundaries.terminalIssue)
      if issue.isSome then
        let committed ← commitOutsideToolLiteralFallback config marker suffix
        if committed then pure ()
        else change fun parser => { parser with pendingInlineNativeChunks := [] }
      else bufferPendingInlineNativeChunk suffix suffixSpans

def feedSpansFrom (chunk : PyStr) (allSpans : List NativeTokenSpan) :
    Nat → List NativeTokenSpan → Parsing δ Unit
  | cursor, [] => feedNativeTextSegment config (chunk.drop cursor) none none
  | cursor, span :: spans => do
      if span.start < cursor ∨ chunk.length < span.stop ∨
          chunk.slice span.start span.stop ≠ span.text then
        fail spansMismatch
      else
        feedNativeTextSegment config (chunk.slice cursor span.start) none none
        let mode ← read (·.mode)
        if mode = .tool ∧ span.text = toolOpen then
          tryFinishSharedBeforeVerifiedOpener config
        else pure ()
        let mode ← read (·.mode)
        if mode = .tool then
          if span.text ∈ toolModeNativeMarkers then
            feedNativeTextSegment config span.text (some span.text) (some span.tokenId)
          else feedNativeTextSegment config span.text none none
          feedSpansFrom chunk allSpans span.stop spans
        else if span.text ∉ plainMarkers then
          feedNativeTextSegment config span.text none none
          feedSpansFrom chunk allSpans span.stop spans
        else
          let disposition ← handleMarkerCandidate config span.text (chunk.drop span.stop) true
            (some span.tokenId)
          let pendingInline ← hasPendingInlineNativeMarker
          if disposition = .pending ∧ pendingInline then
            parkSuffix config chunk allSpans span.text span.stop
          else feedSpansFrom chunk allSpans span.stop spans

def feedOpen (chunk : PyStr) (spans : Option (List NativeTokenSpan)) : Parsing δ Unit := do
  resolvePendingNativeMarker config chunk
  let prefixConsumed ← resolveUnverifiedMarkerPrefix config chunk
  if prefixConsumed = chunk.length then pure ()
  else
    match spans with
    | none => feedUnverifiedText config (chunk.drop prefixConsumed)
    | some spans => feedSpansFrom config chunk spans prefixConsumed spans

/-- The body of `feed_with_native_tokens`; `again` is the call from inside itself. -/
def feedNativeBody (again : PyStr → Option (List NativeTokenSpan) → Parsing δ Unit)
    (chunk : PyStr) (spans : Option (List NativeTokenSpan)) : Parsing δ Unit := do
  let parser ← read id
  if parser.finished then fail (.runtimeError "cannot feed a finished Qwen parser")
  else
    match parser.outsideToolLiteralPending with
    | some pending =>
        change fun parser =>
          { parser with outsideToolLiteralPending := some (pending ++ chunk) }
    | none =>
        if parser.markerBoundaries.hasPendingInlineNativeMarker then
          let _ ← resolvePendingInlineNativeMarker config again chunk spans false
          pure ()
        else feedOpen config chunk spans

/-- `feed_with_native_tokens`, in an interpreter that allows calls `depth` deep. -/
def feedWithNativeTokens : Nat → PyStr → Option (List NativeTokenSpan) → Parsing δ Unit
  | 0, _, _ => fail .recursion
  | depth + 1, chunk, spans => feedNativeBody config (feedWithNativeTokens depth) chunk spans

end ExQServe.Model.Qwen
