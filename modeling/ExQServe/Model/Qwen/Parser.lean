import ExQServe.Model.Qwen.Native

/-! # Qwen parser runs

`finish` of `model/qwen.py`, and whole runs of a parser. -/

namespace ExQServe.Model.Qwen

open ExQServe.Search ExQServe.Emission Emitting

variable {δ : Type} (config : ParserConfig δ)

structure QwenParserFinish where
  incompleteToolCall : Bool
  protocolTerminalIssue : Option ParserTerminalIssue
  issueAmbiguous : ∀ issue ∈ protocolTerminalIssue, issue.kind = .protocolAmbiguity
  issueAlone : protocolTerminalIssue ≠ none → incompleteToolCall = false
deriving DecidableEq

namespace QwenParserFinish

/-- The incomplete flag gives way to an issue. -/
def checked (incompleteToolCall : Bool) (issue : Option ParserTerminalIssue) :
    ParserResult QwenParserFinish :=
  if ambiguous : ∀ found ∈ issue, found.kind = .protocolAmbiguity then
    .ok
      { incompleteToolCall := incompleteToolCall && issue.isNone
        protocolTerminalIssue := issue
        issueAmbiguous := ambiguous
        issueAlone := by cases issue <;> simp }
  else .error (.valueError "protocol_terminal_issue must be PROTOCOL_AMBIGUITY")

end QwenParserFinish

def finishWith (incompleteToolCall : Bool) (issue : Option ParserTerminalIssue) :
    Parsing δ QwenParserFinish :=
  match QwenParserFinish.checked incompleteToolCall issue with
  | .error failure => fail failure
  | .ok finish => pure finish

def finishedResult : Parsing δ QwenParserFinish := do
  let parser ← read id
  finishWith parser.hadIncompleteTool
    (parser.protocolTerminalIssue.orElse fun _ => parser.markerBoundaries.terminalIssue)

def finishLiteralFallback (pending : PyStr) : Parsing δ QwenParserFinish := do
  emitContent config pending
  change fun parser => { parser with outsideToolLiteralPending := none }
  closeCurrentChannel config
  boundaries fun tracker => do
    let marked ← tracker.markLiteralFallbackCommitted
    return ((), marked)
  change fun parser => { parser with finished := true }
  let issue ← read (·.markerBoundaries.terminalIssue)
  if issue.any (·.literalFallbackCommitted) then finishWith false issue
  else fail (.runtimeError "Qwen literal fallback lost terminal evidence")

inductive FinishTurn
  | onward
  | leave
  | returned (finish : QwenParserFinish)
deriving DecidableEq

def finishPendingInline (again : PyStr → Option (List NativeTokenSpan) → Parsing δ Unit) :
    Parsing δ FinishTurn := do
  let resolved ← resolvePendingInlineNativeMarker config again [] none true
  if resolved then pure .onward
  else
    let parser ← read id
    match parser.outsideToolLiteralPending with
    | some pending =>
        let finish ← finishLiteralFallback config pending
        pure (.returned finish)
    | none =>
        if parser.markerBoundaries.terminalIssue.isNone then
          fail (.runtimeError "Qwen semantic barrier did not resolve at end of stream")
        else
          dropPendingInline
          closeCurrentChannel config
          change fun parser => { parser with finished := true }
          let finish ← finishWith false parser.markerBoundaries.terminalIssue
          pure (.returned finish)

def finishTurn (again : PyStr → Option (List NativeTokenSpan) → Parsing δ Unit) :
    Parsing δ FinishTurn := do
  let parser ← read id
  if parser.markerBoundaries.hasPendingInlineNativeMarker then finishPendingInline config again
  else if parser.pendingNativeReplay ≠ [] then
    drainPendingNativeReplay config
    pure .onward
  else if parser.mode = .tool then
    let failed ← finishTool config
    if failed then
      change fun parser => { parser with buffer := [] }
      pure .leave
    else pure .onward
  else if parser.buffer = [] then pure .leave
  else
    let progressed ← processPlain config true
    if progressed then pure .onward else pure .leave

/-- The loop of `finish`; a result where the loop itself returned. -/
def finishLoop (again : PyStr → Option (List NativeTokenSpan) → Parsing δ Unit) :
    Nat → Parsing δ (Option QwenParserFinish)
  | 0 => fail .recursion
  | turns + 1 => do
      match ← finishTurn config again with
      | .onward => finishLoop again turns
      | .leave => pure none
      | .returned finish => pure (some finish)

def isPendingToolCandidate (text : PyStr) : Bool :=
  if text <+: toolOpen then true
  else if ¬toolOpen <+: text then false
  else PyStr.lstrip (text.drop toolOpen.length) <+: functionOpen

def finishBuffer : Parsing δ Unit := do
  let parser ← read id
  if parser.mode = .tool ∨ parser.buffer = [] then pure ()
  else
    let quoted := parser.markerBoundaries.lastContentCharacter.any (· ∈ literalMarkerQuotes)
    if quoted ∧ plainMarkers.any fun marker => parser.buffer <+: marker then
      emitContent config parser.buffer
    else if parser.buffer <+: py "</tool_call>" ∨ isPendingToolCandidate parser.buffer then
      change fun parser => { parser with hadIncompleteTool := true }
    else if parser.buffer <+: thinkOpen ∨ parser.buffer <+: thinkClose then pure ()
    else emitContent config parser.buffer
    change fun parser => { parser with buffer := [] }

/-- The part of `finish` before its loop: what earlier calls deferred to the next
character. -/
def finishDeferred : Parsing δ Unit := do
  let pendingPrefix ← read (·.markerBoundaries.unverifiedMarkerPrefix)
  if pendingPrefix = [] then pure ()
  else
    feedNativeTextSegment config pendingPrefix none none
    setUnverifiedMarkerPrefix []
  resolvePendingNativeMarker config []

/-- `finish`, in an interpreter that allows calls `depth` deep, when its loop ends
within `turns` turns. -/
def finish (depth turns : Nat) : Parsing δ QwenParserFinish := do
  let parser ← read id
  if parser.finished then finishedResult
  else
    match parser.outsideToolLiteralPending with
    | some pending => finishLiteralFallback config pending
    | none =>
        finishDeferred config
        match ← finishLoop config (feedWithNativeTokens config depth) turns with
        | some finish => pure finish
        | none =>
            finishBuffer config
            closeCurrentChannel config
            change fun parser => { parser with finished := true }
            finishedResult

/-! ## Runs -/

inductive ParserCall
  | feed (chunk : PyStr)
  | feedWithNativeTokens (chunk : PyStr) (spans : Option (List NativeTokenSpan))
deriving DecidableEq

def ParserCall.perform (depth : Nat) : ParserCall → Parsing δ Unit
  | .feed chunk => Qwen.feed config chunk
  | .feedWithNativeTokens chunk spans => Qwen.feedWithNativeTokens config depth chunk spans

def performCalls (depth : Nat) : List ParserCall → Parsing δ Unit
  | [] => pure ()
  | call :: calls => do
      call.perform config depth
      performCalls depth calls

def run (depth turns : Nat) (calls : List ParserCall) :
    ParserResult (Ending (QwenIncrementalParser δ) ParserAction QwenParserFinish) :=
  (do
    performCalls config depth calls
    finish config depth turns) (.fresh config)

end ExQServe.Model.Qwen
