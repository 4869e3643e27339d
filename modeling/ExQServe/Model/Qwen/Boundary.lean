import ExQServe.Model.Contracts
import ExQServe.Model.Qwen.Markdown

/-! # Marker boundaries

`_QwenMarkerBoundaryTracker` of `model/qwen.py`: whether a marker in the text
is part of the text or switches the channel, and the barrier raised while that
cannot be told yet. -/

namespace ExQServe.Model.Qwen

open ExQServe.Search

inductive MarkerDisposition
  | literal
  | structural
  | pending
  | failClosed
deriving DecidableEq, Repr

def thinkOpen : PyStr := py "<think>"

def thinkClose : PyStr := py "</think>"

def plainMarkers : List PyStr := [thinkOpen, thinkClose, toolOpen]

def singleQuote : PyChar := chr '\''

def doubleQuote : PyChar := chr '"'

def literalMarkerQuotes : List PyChar := [singleQuote, doubleQuote, backtick]

/-- A verified marker at the end of a chunk, after a quote. -/
structure PendingNativeMarker where
  marker : PyStr
  quote : PyChar
  verified : Bool
deriving DecidableEq, Repr

structure MarkerBoundaryTracker where
  literalContext : MarkdownCodeContext
  lastContentCharacter : Option PyChar
  pendingNativeMarker : Option PendingNativeMarker
  pendingInlineNativeMarker : Option (PyStr × Bool)
  pendingReasoningCloseBoundary : Bool
  unverifiedMarkerPrefix : PyStr
  heldBytes : Nat
  pendingCloseWidth : Option Nat
  pendingCloseIsFence : Bool
  pendingCloseRun : Nat
  pendingCloseRunAtLineStart : Bool
  pendingCloseIndent : Option Nat
  pendingCloseTailCandidate : Bool
  lastScanConsumedCharacters : Nat
  terminalIssue : Option ParserTerminalIssue
deriving DecidableEq

/-- Whether the marker stands between two equal quotes, and whether that needs
more text. -/
def markerIsDirectlyQuoted (text marker : PyStr) (previousContentCharacter : Option PyChar) :
    Bool × Bool :=
  match previousContentCharacter with
  | none => (false, false)
  | some left =>
      if left ∉ literalMarkerQuotes then (false, false)
      else
        match text.drop marker.length with
        | [] => (false, true)
        | right :: _ => (right = left, false)

namespace MarkerBoundaryTracker

def holdLimitBytes : Nat := 64 * 1024

def fresh : MarkerBoundaryTracker where
  literalContext := .fresh
  lastContentCharacter := none
  pendingNativeMarker := none
  pendingInlineNativeMarker := none
  pendingReasoningCloseBoundary := false
  unverifiedMarkerPrefix := []
  heldBytes := 0
  pendingCloseWidth := none
  pendingCloseIsFence := false
  pendingCloseRun := 0
  pendingCloseRunAtLineStart := false
  pendingCloseIndent := none
  pendingCloseTailCandidate := false
  lastScanConsumedCharacters := 0
  terminalIssue := none

def hasPendingInlineNativeMarker (tracker : MarkerBoundaryTracker) : Bool :=
  tracker.pendingInlineNativeMarker.isSome

def markLiteralFallbackCommitted (tracker : MarkerBoundaryTracker) :
    ParserResult MarkerBoundaryTracker :=
  match tracker.terminalIssue with
  | some ⟨.protocolAmbiguity, some detail, .outsideTool, _, _, _, _⟩ =>
      .ok { tracker with terminalIssue := some (.outsideTool detail true) }
  | _ => .error (.runtimeError "Qwen literal fallback requires OUTSIDE_TOOL protocol ambiguity")

def setUnverifiedMarkerPrefix (tracker : MarkerBoundaryTracker) (value : PyStr) :
    MarkerBoundaryTracker :=
  { tracker with unverifiedMarkerPrefix := value }

def observeContent (tracker : MarkerBoundaryTracker) (text : PyStr) : MarkerBoundaryTracker :=
  match text.getLast? with
  | none => tracker
  | some last =>
      { tracker with
        literalContext := tracker.literalContext.observe text
        lastContentCharacter := some last }

/-! ## Unverified text -/

def classifyPlainMarker (tracker : MarkerBoundaryTracker) (text marker : PyStr)
    (final : Bool) : MarkerDisposition × MarkerBoundaryTracker :=
  let ((codeLiteral, codePending), context) :=
    tracker.literalContext.classifyMarker text marker final
  let classified := { tracker with literalContext := context }
  if codePending then (.pending, classified)
  else if codeLiteral then (.literal, classified)
  else
    let (isLiteral, needsMoreText) :=
      markerIsDirectlyQuoted text marker tracker.lastContentCharacter
    if needsMoreText && !final then (.pending, classified)
    else if isLiteral then (.literal, classified)
    else (.structural, classified)

def settleBeforeMarker (tracker : MarkerBoundaryTracker) : MarkerBoundaryTracker :=
  { tracker with literalContext := tracker.literalContext.settleBeforeMarker }

/-- Until the end of the stream a classification only settles the context. -/
theorem classifyPlainMarker_tracker (tracker : MarkerBoundaryTracker)
    (text marker : PyStr) :
    (tracker.classifyPlainMarker text marker false).2 = tracker.settleBeforeMarker := by
  have context := tracker.literalContext.classifyMarker_context text marker
  unfold classifyPlainMarker settleBeforeMarker
  rw [← context]
  dsimp only
  simp only [apply_ite Prod.snd, ite_self]

theorem classifyPlainMarker_settle (tracker : MarkerBoundaryTracker) (text marker : PyStr)
    (final : Bool) :
    tracker.settleBeforeMarker.classifyPlainMarker text marker final =
      tracker.classifyPlainMarker text marker final := by
  unfold classifyPlainMarker settleBeforeMarker
  dsimp only
  rw [MarkdownCodeContext.classifyMarker_settle]

theorem markerIsDirectlyQuoted_append {text marker : PyStr} {previous : Option PyChar}
    (whole : marker.length ≤ text.length) (more : PyStr)
    (decided : (markerIsDirectlyQuoted text marker previous).2 = false) :
    markerIsDirectlyQuoted (text ++ more) marker previous =
      markerIsDirectlyQuoted text marker previous := by
  unfold markerIsDirectlyQuoted at decided ⊢
  cases previous with
  | none => rfl
  | some left =>
      dsimp only at decided ⊢
      split
      · rfl
      · rename_i quote
        rw [if_neg quote] at decided
        rw [List.drop_append_of_le_length whole]
        cases after : text.drop marker.length with
        | nil => rw [after] at decided; cases decided
        | cons right rest => rfl

/-- More text does not change a disposition that was not waiting for it. -/
theorem classifyPlainMarker_append (tracker : MarkerBoundaryTracker) {text marker : PyStr}
    (whole : marker.length ≤ text.length) (more : PyStr)
    (decided : (tracker.classifyPlainMarker text marker false).1 ≠ .pending) :
    tracker.classifyPlainMarker (text ++ more) marker false =
      tracker.classifyPlainMarker text marker false := by
  unfold classifyPlainMarker at decided ⊢
  dsimp only at decided ⊢
  cases codePending : (tracker.literalContext.classifyMarker text marker false).1.2 with
  | true => rw [codePending, if_pos rfl] at decided; exact absurd rfl decided
  | false =>
      rw [tracker.literalContext.classifyMarker_append whole more codePending, codePending]
      simp only [codePending, Bool.false_eq_true, if_false] at decided ⊢
      split
      · rfl
      · rename_i notCode
        rw [if_neg notCode] at decided
        cases needs : (markerIsDirectlyQuoted text marker tracker.lastContentCharacter).2 with
        | true => simp [needs] at decided
        | false => rw [markerIsDirectlyQuoted_append whole more needs, needs]

theorem observeContent_append (tracker : MarkerBoundaryTracker) (first second : PyStr) :
    tracker.observeContent (first ++ second) =
      (tracker.observeContent first).observeContent second := by
  unfold observeContent
  rw [List.getLast?_append]
  cases lastSecond : second.getLast? with
  | none =>
      rw [List.getLast?_eq_none_iff] at lastSecond
      subst lastSecond
      simp
  | some last =>
      cases lastFirst : first.getLast? with
      | none =>
          rw [List.getLast?_eq_none_iff] at lastFirst
          subst lastFirst
          simp
      | some firstLast =>
          simp [MarkdownCodeContext.observe_append]

/-! ## The barrier -/

def resetPendingCloseScan (tracker : MarkerBoundaryTracker) : MarkerBoundaryTracker :=
  { tracker with
    pendingCloseRun := 0
    pendingCloseRunAtLineStart := false
    pendingCloseTailCandidate := false
    pendingCloseIndent := none
    lastScanConsumedCharacters := 0 }

def startUnresolved (tracker : MarkerBoundaryTracker) (marker : PyStr) (verified : Bool) :
    ParserResult MarkerBoundaryTracker :=
  match tracker.literalContext.delimiterWidth with
  | none =>
      .error (.runtimeError "Qwen unresolved literal barrier requires an active delimiter")
  | some width =>
      .ok (resetPendingCloseScan
        { tracker with
          pendingInlineNativeMarker := some (marker, verified)
          pendingCloseWidth := some width
          pendingCloseIsFence := tracker.literalContext.delimiterIsFence
          heldBytes := marker.utf8Length
          terminalIssue :=
            if holdLimitBytes < marker.utf8Length then some (.outsideTool .holdLimit false)
            else none })

def clearUnresolved (tracker : MarkerBoundaryTracker) : MarkerBoundaryTracker :=
  resetPendingCloseScan
    { tracker with
      pendingInlineNativeMarker := none
      pendingReasoningCloseBoundary := false
      pendingCloseWidth := none
      pendingCloseIsFence := false
      heldBytes := 0 }

def acceptHeldCharacter (tracker : MarkerBoundaryTracker) (char : PyChar) :
    ParserResult (Bool × MarkerBoundaryTracker) :=
  if char.isSurrogate then .error .unicodeEncode
  else if holdLimitBytes < tracker.heldBytes + char.utf8Length then
    .ok (false, { tracker with terminalIssue := some (.outsideTool .holdLimit false) })
  else .ok (true, { tracker with heldBytes := tracker.heldBytes + char.utf8Length })

def pendingRunIsFenceClose (tracker : MarkerBoundaryTracker) : Bool :=
  match tracker.pendingCloseWidth with
  | none => false
  | some width =>
      tracker.pendingCloseRunAtLineStart && decide (width ≤ tracker.pendingCloseRun)

def indentAfter (tracker : MarkerBoundaryTracker) (char : PyChar) : MarkerBoundaryTracker :=
  { tracker with
    pendingCloseIndent :=
      if char = newline then some 0
      else if char = chr ' ' then tracker.pendingCloseIndent.map (· + 1)
      else none }

def resetRun (tracker : MarkerBoundaryTracker) : MarkerBoundaryTracker :=
  { tracker with pendingCloseRun := 0, pendingCloseRunAtLineStart := false }

/-- A held character that belongs to no tail of a closing fence: the tracker, and
whether it ends the region. -/
def scanBody (tracker : MarkerBoundaryTracker) (char : PyChar) :
    Bool × MarkerBoundaryTracker :=
  if char = backtick then
    (false,
      { tracker with
        pendingCloseRunAtLineStart :=
          if tracker.pendingCloseRun = 0 then tracker.pendingCloseIndent.any (· ≤ 3)
          else tracker.pendingCloseRunAtLineStart
        pendingCloseRun := tracker.pendingCloseRun + 1
        pendingCloseIndent := none })
  else if tracker.pendingCloseRun = 0 then (false, tracker.indentAfter char)
  else if tracker.pendingCloseIsFence ∧ tracker.pendingRunIsFenceClose then
    if char = newline then (true, tracker.resetRun)
    else if isInlineBlank char then
      (false, { tracker.resetRun with pendingCloseTailCandidate := true })
    else (false, tracker.resetRun.indentAfter char)
  else (false, tracker.resetRun.indentAfter char)

def scanHeld (tracker : MarkerBoundaryTracker) (char : PyChar) :
    Bool × MarkerBoundaryTracker :=
  if tracker.pendingCloseTailCandidate then
    if isInlineBlank char then (false, tracker)
    else if char = newline then (true, tracker)
    else
      scanBody { tracker with pendingCloseTailCandidate := false, pendingCloseIndent := none }
        char
  else tracker.scanBody char

/-- The loop of `_scan_pending_close`, for a barrier of `width` backticks. -/
def scanPendingCloseFrom (width : Nat) (final : Bool) :
    Nat → PyStr → MarkerBoundaryTracker → ParserResult (Bool × MarkerBoundaryTracker)
  | _, [], tracker =>
      if ¬final ∨ tracker.terminalIssue.isSome then .ok (false, tracker)
      else if tracker.pendingCloseIsFence then
        .ok (tracker.pendingCloseTailCandidate || tracker.pendingRunIsFenceClose, tracker)
      else .ok (tracker.pendingCloseRun = width, tracker)
  | index, char :: rest, tracker => do
      -- The character after an exact inline run proves the close but is not held.
      if ¬tracker.pendingCloseIsFence ∧ char ≠ backtick ∧ tracker.pendingCloseRun = width then
        return (true, { tracker.resetRun with lastScanConsumedCharacters := index })
      let (accepted, tracker) ← tracker.acceptHeldCharacter char
      if ¬accepted then
        return (false, { tracker with lastScanConsumedCharacters := index })
      let (closed, tracker) :=
        scanHeld { tracker with lastScanConsumedCharacters := index + 1 } char
      if closed then return (true, tracker)
      scanPendingCloseFrom width final (index + 1) rest tracker

def scanPendingClose (tracker : MarkerBoundaryTracker) (text : PyStr) (final : Bool) :
    ParserResult (Bool × MarkerBoundaryTracker) :=
  let tracker := { tracker with lastScanConsumedCharacters := 0 }
  match tracker.pendingCloseWidth with
  | none => .ok (false, tracker)
  | some width => scanPendingCloseFrom width final 0 text tracker

/-! ## Native markers -/

def resolvePendingReasoningClose (tracker : MarkerBoundaryTracker) (followingText : PyStr)
    (final : Bool) : ParserResult (MarkerDisposition × MarkerBoundaryTracker) := do
  let (closed, tracker) ← tracker.scanPendingClose followingText final
  if closed then return (.literal, tracker.clearUnresolved)
  if tracker.terminalIssue.isSome then return (.pending, tracker)
  if newline ∈ followingText ∨ final then
    return (.structural,
      clearUnresolved
        { tracker with
          literalContext := tracker.literalContext.abandonProvisionalInline
          lastContentCharacter := none })
  return (.pending, tracker)

def resolveProvisionalReasoningClose (tracker : MarkerBoundaryTracker)
    (followingText : PyStr) :
    ParserResult (Option MarkerDisposition × MarkerBoundaryTracker) := do
  let context := tracker.literalContext
  if context.delimiterWidth.isNone ∨ context.delimiterIsFence ∨
      ¬context.inlineCrossedNewline then
    return (none, tracker)
  let tracker ← tracker.startUnresolved thinkClose true
  let (disposition, tracker) ←
    resolvePendingReasoningClose { tracker with pendingReasoningCloseBoundary := true }
      followingText false
  return (some disposition, tracker)

def classifyOutsideCode (tracker : MarkerBoundaryTracker) (marker followingText : PyStr)
    (verified : Bool) : MarkerDisposition × MarkerBoundaryTracker :=
  let unquoted : MarkerDisposition := if verified then .structural else .failClosed
  match tracker.lastContentCharacter with
  | none => (unquoted, tracker)
  | some quote =>
      if quote = singleQuote ∨ quote = doubleQuote then
        match followingText with
        | [] =>
            (.pending, { tracker with pendingNativeMarker := some ⟨marker, quote, verified⟩ })
        | next :: _ => (if next = quote then .literal else unquoted, tracker)
      else (unquoted, tracker)

def classifyNativeMarker (tracker : MarkerBoundaryTracker) (marker followingText : PyStr)
    (verified : Bool) : ParserResult (MarkerDisposition × MarkerBoundaryTracker) := do
  let (active, context) := tracker.literalContext.activeForNativeMarker
  let tracker := { tracker with literalContext := context }
  if active then
    if ¬verified then return (.literal, tracker)
    let tracker ← tracker.startUnresolved marker verified
    if tracker.terminalIssue.isSome then return (.pending, tracker)
    let (closed, tracker) ← tracker.scanPendingClose followingText false
    if closed then return (.literal, tracker.clearUnresolved)
    return (.pending, tracker)
  return tracker.classifyOutsideCode marker followingText verified

def resolvePendingInlineNativeMarker (tracker : MarkerBoundaryTracker)
    (followingText : PyStr) (final : Bool) :
    ParserResult (Option (PyStr × MarkerDisposition) × MarkerBoundaryTracker) :=
  match tracker.pendingInlineNativeMarker with
  | none => return (none, tracker)
  | some (marker, verified) => do
      if tracker.terminalIssue.isSome then return (some (marker, .pending), tracker)
      if tracker.pendingReasoningCloseBoundary then
        let (disposition, tracker) ←
          tracker.resolvePendingReasoningClose followingText final
        return (some (marker, disposition), tracker)
      let (closed, tracker) ← tracker.scanPendingClose followingText final
      if closed then return (some (marker, .literal), tracker.clearUnresolved)
      if tracker.terminalIssue.isSome then return (some (marker, .pending), tracker)
      if final then
        let cleared := tracker.clearUnresolved
        if verified then
          return (some (marker, .pending),
            { cleared with terminalIssue := some (.outsideTool .unresolvedBoundary false) })
        return (some (marker, .failClosed), cleared)
      return (some (marker, .pending), tracker)

def resolvePendingNativeMarker (tracker : MarkerBoundaryTracker) (followingText : PyStr) :
    Option (PyStr × MarkerDisposition) × MarkerBoundaryTracker :=
  match tracker.pendingNativeMarker with
  | none => (none, tracker)
  | some ⟨marker, quote, verified⟩ =>
      let disposition : MarkerDisposition :=
        if followingText.head? = some quote then .literal
        else if verified then .structural
        else .failClosed
      (some (marker, disposition), { tracker with pendingNativeMarker := none })

def splitMarkerPrefixSuffix (text : PyStr) : PyStr × PyStr :=
  let maxWidth := min text.length (longestMarker - 1)
  match (List.range maxWidth).reverse.find? fun width =>
      plainMarkers.any fun marker => text.drop (text.length - (width + 1)) <+: marker with
  | some width => (text.take (text.length - (width + 1)), text.drop (text.length - (width + 1)))
  | none => (text, [])
where
  longestMarker : Nat := (plainMarkers.map List.length).foldr max 0

end MarkerBoundaryTracker

end ExQServe.Model.Qwen
