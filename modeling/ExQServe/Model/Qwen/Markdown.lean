import ExQServe.Foundation.Text

/-! # Markdown code context

`_MarkdownCodeContext` of `model/qwen.py`: the backtick-delimited span the text
read so far ends in. -/

namespace ExQServe.Model.Qwen

open ExQServe.Search

def backtick : PyChar := chr '`'

def newline : PyChar := chr '\n'

def isInlineBlank (char : PyChar) : Bool := char = chr ' ' || char = chr '\t'

structure MarkdownCodeContext where
  delimiterWidth : Option Nat
  delimiterIsFence : Bool
  inlineCrossedNewline : Bool
  pendingBackticks : Nat
  pendingAtLineStart : Bool
  indentSpaces : Option Nat
  fenceCloseTailCandidate : Bool
deriving DecidableEq, Repr

namespace MarkdownCodeContext

def fresh : MarkdownCodeContext where
  delimiterWidth := none
  delimiterIsFence := false
  inlineCrossedNewline := false
  pendingBackticks := 0
  pendingAtLineStart := false
  indentSpaces := some 0
  fenceCloseTailCandidate := false

/-- The loop of `_contains_exact_inline_delimiter`, after a run of backticks. -/
def containsExactInlineDelimiterAfter (width : Nat) (final : Bool) : Nat → PyStr → Bool
  | run, [] => final && run = width
  | run, char :: rest =>
      if char = backtick then containsExactInlineDelimiterAfter width final (run + 1) rest
      else if run = width then true
      else containsExactInlineDelimiterAfter width final 0 rest

def containsExactInlineDelimiter (text : PyStr) (width : Nat) (final : Bool) : Bool :=
  containsExactInlineDelimiterAfter width final 0 text

def clearDelimiter (context : MarkdownCodeContext) : MarkdownCodeContext :=
  { context with
    delimiterWidth := none
    delimiterIsFence := false
    inlineCrossedNewline := false
    fenceCloseTailCandidate := false }

/-- What a finished run of `width` backticks before `next` does. -/
def commitRun (context : MarkdownCodeContext) (width : Nat) (openedAtLineStart : Bool)
    (next : PyChar) : MarkdownCodeContext :=
  match context.delimiterWidth with
  | none =>
      { context with
        delimiterWidth := some width
        delimiterIsFence := openedAtLineStart && decide (3 ≤ width)
        inlineCrossedNewline := false
        fenceCloseTailCandidate := false }
  | some delimiterWidth =>
      if context.delimiterIsFence then
        if openedAtLineStart ∧ delimiterWidth ≤ width then
          if next = newline then context.clearDelimiter
          else if isInlineBlank next then { context with fenceCloseTailCandidate := true }
          else context
        else context
      else if width = delimiterWidth then context.clearDelimiter
      else context

def commitPendingBackticks (context : MarkdownCodeContext) (next : PyChar) :
    MarkdownCodeContext :=
  if context.pendingBackticks = 0 then context
  else
    commitRun { context with pendingBackticks := 0, pendingAtLineStart := false }
      context.pendingBackticks context.pendingAtLineStart next

/-- What both classifiers do before they look: a marker ends a run of backticks
and is no part of a closing fence. -/
def settleBeforeMarker (context : MarkdownCodeContext) : MarkdownCodeContext :=
  commitPendingBackticks
    (if context.fenceCloseTailCandidate then
      { context with fenceCloseTailCandidate := false, indentSpaces := none }
    else context)
    (chr '<')

/-- Whether the marker is literal, whether that needs more text, and the context
afterwards. -/
def classifyMarker (context : MarkdownCodeContext) (text marker : PyStr) (final : Bool) :
    (Bool × Bool) × MarkdownCodeContext :=
  let settled := context.settleBeforeMarker
  match settled.delimiterWidth with
  | none => ((false, false), settled)
  | some width =>
      let closes :=
        if settled.delimiterIsFence then
          (findFrom (List.replicate width backtick) text marker.length).isSome
        else containsExactInlineDelimiter (text.drop marker.length) width final
      if closes then ((true, false), settled)
      else if final then
        ((false, false),
          if settled.delimiterIsFence then settled
          else { settled with delimiterWidth := none, inlineCrossedNewline := false })
      else ((false, true), settled)

def activeForNativeMarker (context : MarkdownCodeContext) : Bool × MarkdownCodeContext :=
  let settled := context.settleBeforeMarker
  (settled.delimiterWidth.isSome, settled)

def abandonProvisionalInline (context : MarkdownCodeContext) : MarkdownCodeContext :=
  if context.delimiterWidth.isSome ∧ ¬context.delimiterIsFence then
    { context with delimiterWidth := none, inlineCrossedNewline := false }
  else context

/-- A character that is no part of a closing fence's tail. -/
def observeBody (context : MarkdownCodeContext) (char : PyChar) : MarkdownCodeContext :=
  if char = backtick then
    { context with
      pendingAtLineStart :=
        if context.pendingBackticks = 0 then context.indentSpaces.any (· ≤ 3)
        else context.pendingAtLineStart
      pendingBackticks := context.pendingBackticks + 1
      indentSpaces := none }
  else
    let committed := context.commitPendingBackticks char
    if char = newline then
      { committed with
        inlineCrossedNewline :=
          committed.inlineCrossedNewline ||
            committed.delimiterWidth.isSome && !committed.delimiterIsFence
        indentSpaces := some 0 }
    else
      { committed with
        indentSpaces :=
          if char = chr ' ' then committed.indentSpaces.map (· + 1) else none }

def observeCharacter (context : MarkdownCodeContext) (char : PyChar) :
    MarkdownCodeContext :=
  if context.fenceCloseTailCandidate then
    if isInlineBlank char then context
    else if char = newline then { context.clearDelimiter with indentSpaces := some 0 }
    else
      observeBody { context with fenceCloseTailCandidate := false, indentSpaces := none } char
  else context.observeBody char

def observe (context : MarkdownCodeContext) (text : PyStr) : MarkdownCodeContext :=
  text.foldl observeCharacter context

/-! ## More text -/

theorem observe_append (context : MarkdownCodeContext) (first second : PyStr) :
    context.observe (first ++ second) = (context.observe first).observe second :=
  List.foldl_append

/-- Before a marker there is nothing left to settle. -/
structure Settled (context : MarkdownCodeContext) : Prop where
  noTail : context.fenceCloseTailCandidate = false
  noBackticks : context.pendingBackticks = 0

theorem Settled.settle_eq {context : MarkdownCodeContext} (settled : Settled context) :
    context.settleBeforeMarker = context := by
  unfold settleBeforeMarker commitPendingBackticks
  simp [settled.noTail, settled.noBackticks]

theorem commitRun_settled {context : MarkdownCodeContext} (settled : Settled context)
    (width : Nat) (openedAtLineStart : Bool) :
    Settled (context.commitRun width openedAtLineStart (chr '<')) := by
  have noTail := settled.noTail
  have noBackticks := settled.noBackticks
  have notBlank : isInlineBlank (chr '<') = false := by decide
  unfold commitRun
  split
  · exact ⟨rfl, noBackticks⟩
  · split
    · rw [if_neg (by decide : chr '<' ≠ newline), notBlank, if_neg Bool.false_ne_true,
        ite_self]
      exact settled
    · split
      · exact ⟨rfl, noBackticks⟩
      · exact settled

theorem settleBeforeMarker_settled (context : MarkdownCodeContext) :
    Settled context.settleBeforeMarker := by
  unfold settleBeforeMarker commitPendingBackticks
  split
  · split
    · rename_i noBackticks
      exact ⟨rfl, noBackticks⟩
    · exact commitRun_settled ⟨rfl, rfl⟩ _ _
  · rename_i noTail
    split
    · rename_i noBackticks
      exact ⟨by simpa using noTail, noBackticks⟩
    · exact commitRun_settled ⟨by simpa using noTail, rfl⟩ _ _

@[simp] theorem settleBeforeMarker_idem (context : MarkdownCodeContext) :
    context.settleBeforeMarker.settleBeforeMarker = context.settleBeforeMarker :=
  (settleBeforeMarker_settled context).settle_eq

theorem classifyMarker_settle (context : MarkdownCodeContext) (text marker : PyStr)
    (final : Bool) :
    context.settleBeforeMarker.classifyMarker text marker final =
      context.classifyMarker text marker final := by
  unfold classifyMarker
  rw [settleBeforeMarker_idem]

theorem containsExactInlineDelimiterAfter_append (width : Nat) (more : PyStr) :
    ∀ (text : PyStr) (run : Nat), containsExactInlineDelimiterAfter width false run text = true →
      containsExactInlineDelimiterAfter width false run (text ++ more) = true
  | [], run, contains => by simp [containsExactInlineDelimiterAfter] at contains
  | char :: rest, run, contains => by
      rw [List.cons_append]
      unfold containsExactInlineDelimiterAfter at contains ⊢
      split
      · rename_i isBacktick
        rw [if_pos isBacktick] at contains
        exact containsExactInlineDelimiterAfter_append width more rest _ contains
      · rename_i notBacktick
        rw [if_neg notBacktick] at contains
        split
        · rfl
        · rename_i otherWidth
          rw [if_neg otherWidth] at contains
          exact containsExactInlineDelimiterAfter_append width more rest _ contains

/-- Until the end of the stream a classification changes the context only by settling
it. -/
theorem classifyMarker_context (context : MarkdownCodeContext) (text marker : PyStr) :
    (context.classifyMarker text marker false).2 = context.settleBeforeMarker := by
  unfold classifyMarker
  dsimp only
  split
  · rfl
  · simp only [Bool.false_eq_true, if_false, apply_ite Prod.snd, ite_self]

/-- More text does not change a classification that was not waiting for it. -/
theorem classifyMarker_append (context : MarkdownCodeContext) {text marker : PyStr}
    (whole : marker.length ≤ text.length) (more : PyStr)
    (decided : (context.classifyMarker text marker false).1.2 = false) :
    context.classifyMarker (text ++ more) marker false =
      context.classifyMarker text marker false := by
  unfold classifyMarker at decided ⊢
  dsimp only at decided ⊢
  cases active : context.settleBeforeMarker.delimiterWidth with
  | none => rfl
  | some width =>
      simp only [active] at decided ⊢
      cases fence : context.settleBeforeMarker.delimiterIsFence with
      | false =>
          simp only [fence, Bool.false_eq_true, if_false] at decided ⊢
          split at decided
          · rename_i closes
            unfold containsExactInlineDelimiter at closes ⊢
            rw [List.drop_append_of_le_length whole,
              containsExactInlineDelimiterAfter_append width more _ _ closes, if_pos rfl,
              closes, if_pos rfl]
          · cases decided
      | true =>
          simp only [fence, if_true] at decided ⊢
          split at decided
          · rename_i closes
            have closesMore : (findFrom (List.replicate width backtick) (text ++ more)
                marker.length).isSome = true := by
              unfold findFrom at closes ⊢
              rw [Option.isSome_map] at closes ⊢
              rw [List.drop_append_of_le_length whole]
              rcases Option.isSome_iff_exists.mp closes with ⟨position, found⟩
              exact find_isSome_append found more
            rw [closes, closesMore]
          · cases decided

end MarkdownCodeContext

end ExQServe.Model.Qwen
