import ExQServe.Foundation.Emission
import ExQServe.Foundation.Stream
import ExQServe.ToolWire.Engine

/-! # Parser contracts

What passes between a parser and the code around it, from `core/events.py`,
`core/items.py`, `core/tokens.py` and `model/contracts.py`. The checks of a
constructor are fields of its structure. -/

namespace ExQServe.Model

open ExQServe.Search ExQServe.ToolWire

def toolOpen : PyStr := py "<tool_call>"

def NonBlank (text : PyStr) : Prop := text.strip ≠ []

instance (text : PyStr) : Decidable (NonBlank text) :=
  inferInstanceAs (Decidable (text.strip ≠ []))

theorem NonBlank.ne_nil {text : PyStr} (nonBlank : NonBlank text) : text ≠ [] := by
  rintro rfl
  exact nonBlank rfl

theorem nonBlank_iff {text : PyStr} : NonBlank text ↔ ∃ char ∈ text, char.isSpace = false := by
  unfold NonBlank PyStr.strip PyStr.lstrip
  rw [ne_eq, List.rdropWhile_eq_nil_iff]
  constructor
  · intro blank
    push Not at blank
    rcases blank with ⟨char, member, visible⟩
    exact ⟨char, (List.dropWhile_sublist _).mem member, by simpa using visible⟩
  · rintro ⟨char, member, visible⟩ blank
    rw [← List.takeWhile_append_dropWhile (p := PyChar.isSpace) (l := text),
      List.mem_append] at member
    rcases member with member | member
    · rw [List.mem_takeWhile_imp member] at visible
      cases visible
    · rw [blank char member] at visible
      cases visible

/-! ## Events -/

structure ToolCallItem where
  callId : PyStr
  name : PyStr
  argumentsJson : PyStr
  index : Nat
  callIdNonBlank : NonBlank callId
  nameNonBlank : NonBlank name
deriving DecidableEq

/-- The events a parser emits. The others of `GenerationEvent` belong to the
runtime. -/
inductive GenerationEvent
  | textStarted (requestId : PyStr)
  | textDelta (requestId text : PyStr)
  | textCompleted (requestId text : PyStr)
  | reasoningStarted (requestId : PyStr)
  | reasoningDelta (requestId text : PyStr)
  | reasoningCompleted (requestId text : PyStr)
  | toolCallStarted (requestId callId name : PyStr) (index : Nat)
  | toolCallArgumentsDelta (requestId callId delta : PyStr) (index : Nat)
  | toolCallCompleted (requestId : PyStr) (call : ToolCallItem)
deriving DecidableEq

/-! ## Terminal issues -/

inductive ParserTerminalIssueKind
  | incompleteTool
  | protocolAmbiguity
deriving DecidableEq, Repr

inductive ParserAmbiguityDetail
  | unresolvedBoundary
  | holdLimit
deriving DecidableEq, Repr

inductive ParserConstraintScope
  | unknown
  | outsideTool
  | tool
deriving DecidableEq, Repr

structure ParserTerminalIssue where
  kind : ParserTerminalIssueKind
  ambiguityDetail : Option ParserAmbiguityDetail
  constraintScope : ParserConstraintScope
  literalFallbackCommitted : Bool
  incompleteBare : kind = .incompleteTool →
    ambiguityDetail = none ∧ literalFallbackCommitted = false
  ambiguityDetailed : kind = .protocolAmbiguity → ambiguityDetail ≠ none
  fallbackScoped : kind = .protocolAmbiguity → literalFallbackCommitted = true →
    constraintScope = .outsideTool ∨
      constraintScope = .tool ∧ ambiguityDetail = some .unresolvedBoundary
deriving DecidableEq

namespace ParserTerminalIssue

def outsideTool (detail : ParserAmbiguityDetail) (literalFallbackCommitted : Bool) :
    ParserTerminalIssue :=
  ⟨.protocolAmbiguity, some detail, .outsideTool, literalFallbackCommitted, by simp,
    by simp, by simp⟩

/-- `raw_boundary_ambiguous` inside a Tool region. -/
def unresolvedTool (literalFallbackCommitted : Bool) : ParserTerminalIssue :=
  ⟨.protocolAmbiguity, some .unresolvedBoundary, .tool, literalFallbackCommitted,
    by simp, by simp, by simp⟩

def toolHoldLimit : ParserTerminalIssue :=
  ⟨.protocolAmbiguity, some .holdLimit, .tool, false, by simp, by simp, by simp⟩

end ParserTerminalIssue

/-! ## Failures -/

inductive ParserFailure
  | valueError (message : String)
  | runtimeError (message : String)
  | nativeTokenProvenance (message : String)
  | nativeTokenConstraintIntegrity (message : String)
  | unicodeEncode
  | recursion
  | toolWire (failure : EngineFailure)
deriving DecidableEq

abbrev ParserResult := Except ParserFailure

/-! ## Native tokens -/

@[ext] structure NativeTokenSpan where
  start : Nat
  stop : Nat
  tokenId : Nat
  text : PyStr
  ordered : start < stop
  textNonempty : text ≠ []

instance : DecidableEq NativeTokenSpan := fun _ _ => decidable_of_iff' _ NativeTokenSpan.ext_iff

/-! ## Tool-region decoders -/

structure DecodedToolRegionCall where
  name : PyStr
  argumentsJson : PyStr
  nameNonBlank : NonBlank name
  argumentsNonBlank : NonBlank argumentsJson
deriving DecidableEq

structure ToolRegionDecodeResult where
  complete : Bool
  calls : List DecodedToolRegionCall
  remainder : PyStr
  rawRegion : PyStr
  issueCode : Option String
  literalToolOpenOffsets : List Nat
  completeClean : complete = true → issueCode = none
  offsetsIncreasing : literalToolOpenOffsets.Pairwise (· < ·)
  offsetsAtMarkers : ∀ offset ∈ literalToolOpenOffsets, Occurs toolOpen remainder offset
deriving DecidableEq

def ToolRegionDecodeResult.checked (complete : Bool) (calls : List DecodedToolRegionCall)
    (remainder rawRegion : PyStr) (issueCode : Option String) (offsets : List Nat) :
    ParserResult ToolRegionDecodeResult :=
  if clean : complete = true → issueCode = none then
    if increasing : offsets.Pairwise (· < ·) then
      if atMarkers : ∀ offset ∈ offsets, Occurs toolOpen remainder offset then
        .ok ⟨complete, calls, remainder, rawRegion, issueCode, offsets, clean, increasing,
          atMarkers⟩
      else
        .error (.valueError
          "literal Tool opener offsets must point at exact remainder markers")
    else
      .error (.valueError "literal_tool_open_offsets must be strictly increasing and unique")
  else .error (.valueError "complete Tool regions must not expose issue_code")

/-- The methods by which a parser asks whether a region could end here. -/
structure CompatibilityToolRegionDecoder (δ : Type) where
  canProbeCompatibilityFinish : δ → Bool
  probeCompatibilityFinish : δ → ParserResult (Option ToolRegionDecodeResult × δ)

structure ToolRegionDecoder (δ : Type) where
  fresh : Nat → δ
  feed : δ → PyStr → ParserResult δ
  finish : δ → ParserResult ToolRegionDecodeResult
  compatibility : Option (CompatibilityToolRegionDecoder δ)

/-- A decoder that does not see how the text it is fed was cut, as long as its states
are `Lawful`. -/
structure ToolRegionDecoder.CutFree {δ : Type} (decoder : ToolRegionDecoder δ)
    (Lawful : δ → Prop) : Prop where
  fresh : ∀ completedCalls, Lawful (decoder.fresh completedCalls)
  feed : Stream.CutFree Lawful decoder.feed

end ExQServe.Model
