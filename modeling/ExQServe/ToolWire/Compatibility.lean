import ExQServe.ToolWire.Session

/-! # Compatibility Tool regions

`classify_compatibility_function_opener` and `decode_tool_wire_compatibility_region`
of `tool_wire/engine.py`: a region is decoded from its complete text. -/

namespace ExQServe.ToolWire

open ExQServe.Search ProductionToolWireSession

def classifyCompatibilityFunctionOpener (source : PyStr) (spec : ToolWireSpec)
    (cursor : Nat) : EngineStatus :=
  let cursor := skipStructuralWs source cursor
  let terminal := spec.functionOpen
  match parseNamed source cursor terminal "function_open_malformed" with
  | .error .needMore =>
      if terminal.prefixText <+: source.drop cursor then
        let nameStart := cursor + terminal.prefixText.length
        let partialName :=
          match findFrom terminal.nameTerminator source nameStart with
          | none => source.drop nameStart
          | some nameEnd => source.slice nameStart nameEnd
        if spec.functionNameCodec.forbiddenSequences.any (contains · partialName) then
          .malformed
        else .incomplete
      else .incomplete
  | .error _ => .malformed
  | .ok found =>
      match spec.functionNameCodec.decode found.name with
      | none => .malformed
      | some name =>
          if spec.functionNameCodec.isLosslesslyRepresentableForTerminal name terminal then
            .complete
          else .malformed

structure CompatibilityOptions (m : Type → Type) where
  completedCallOffset : Nat
  argumentVariantResolver : Option (PyStr → PyStr → Option String)
  rawCloseCandidateAcceptor : Option (PyStr → PyStr → List PyStr → PyStr → Nat → Bool)
  rawFullCloseSemanticAcceptor :
    Option (PyStr → PyStr → List WireArgumentOccurrence → PyStr → Nat → Nat →
      m (Option Bool))

namespace CompatibilityOptions

def parseOptions {m : Type → Type} (options : CompatibilityOptions m) : ParseOptions m where
  eos := true
  allowTrailing := true
  compatibilityRawBoundaries := true
  argumentVariantResolver := options.argumentVariantResolver
  rawCloseCandidateAcceptor := options.rawCloseCandidateAcceptor
  rawFullCloseSemanticAcceptor := options.rawFullCloseSemanticAcceptor

end CompatibilityOptions

def rejectedRegion (status : EngineStatus) (issue : EngineIssue) (consumedChars : Nat)
    (source : PyStr) (calls : List WireToolCall) : ProductionToolWireResult where
  status := status
  sequence := none
  issues := [issue]
  consumedChars := consumedChars
  remainder := []
  rawRegion := source
  completedEnvelopes := calls.length
  awaitingNextEnvelope := false

def acceptedRegion (source : PyStr) (regionEnd : Nat) (calls : List WireToolCall) :
    ProductionToolWireResult where
  status := .complete
  sequence := some ⟨calls⟩
  issues := []
  consumedChars := regionEnd
  remainder := source.drop regionEnd
  rawRegion := source.take regionEnd
  completedEnvelopes := calls.length
  awaitingNextEnvelope := false

section Region

variable {m : Type → Type} [Monad m] [MonadExceptOf EngineFailure m]

/-- Run an action and take what it raises as a value. -/
def attempt (action : m β) : m (EngineResult β) :=
  tryCatch (Except.ok <$> action) fun failure => pure (.error failure)

def regionAfter (source : PyStr) (spec : ToolWireSpec) (plan : CompiledToolWirePlan)
    (completedCallOffset regionEnd : Nat) (calls : List WireToolCall) :
    ProductionToolWireResult ⊕ Nat :=
  let nextEnvelope := skipStructuralWs source regionEnd
  if ¬spec.toolOpen.text <+: source.drop nextEnvelope then
    .inl (acceptedRegion source regionEnd calls)
  else
    match classifyCompatibilityFunctionOpener source spec
        (nextEnvelope + spec.toolOpen.text.length) with
    | .incomplete => .inr nextEnvelope
    | .malformed => .inl (acceptedRegion source regionEnd calls)
    | _ =>
        if plan.maxCallsPerSequence.any (· ≤ completedCallOffset + calls.length) then
          .inl (rejectedRegion .malformed
            ⟨sequenceLimitExceeded, sequenceLimitMessage, some nextEnvelope⟩ nextEnvelope
            source calls)
        else .inr nextEnvelope

/-- The envelopes from `cursor` on, each parsed from the text that is left. -/
def decodeEnvelopes (options : CompatibilityOptions m) (source : PyStr)
    (spec : ToolWireSpec) (plan : CompiledToolWirePlan) :
    Nat → List WireToolCall → Nat → m ProductionToolWireResult
  | 0, _, _ => throw EngineFailure.fuelExhausted
  | fuel + 1, calls, cursor => do
      match ← attempt (parseSequenceM options.parseOptions (source.drop cursor) spec plan) with
      | .error .needMore =>
          pure (rejectedRegion .incomplete
            ⟨"incomplete_wire",
              plain "Tool-wire input ended before the compatibility region was complete",
              some source.length⟩ source.length source calls)
      | .error (.malformed code message offset) =>
          pure (rejectedRegion .malformed ⟨code, message, some (cursor + offset)⟩
            (min (cursor + offset) source.length) source calls)
      | .error failure => throw failure
      | .ok (sequence, consumed) =>
          match sequence.calls with
          | [call] =>
              let calls := calls ++
                [⟨call.name, options.completedCallOffset + calls.length, call.occurrences⟩]
              match regionAfter source spec plan options.completedCallOffset
                  (cursor + consumed) calls with
              | .inl result => pure result
              | .inr nextEnvelope =>
                  decodeEnvelopes options source spec plan fuel calls nextEnvelope
          | _ =>
              pure (rejectedRegion .malformed
                ⟨"tool_envelope_cardinality",
                  plain "Qwen Tool envelope must contain exactly one function call",
                  some cursor⟩ cursor source calls)

/-- Every envelope is at least an opener long, so the length of the source bounds the
loop. -/
def decodeToolWireCompatibilityRegion (options : CompatibilityOptions m) (source : PyStr)
    (spec : ToolWireSpec) (plan : CompiledToolWirePlan) : m ProductionToolWireResult :=
  decodeEnvelopes options source spec plan (source.length + 1) [] 0

end Region

end ExQServe.ToolWire
