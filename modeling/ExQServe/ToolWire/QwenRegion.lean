import ExQServe.ToolWire.Compatibility
import ExQServe.Model.Contracts
import ExQServe.Model.ToolConstraints

/-! # Qwen Tool-region decoder

`QwenToolRegionDecoder` of `tool_wire/controls/qwen.py`: a session where the grammar
constrains generation, else a decoder of the complete text that weighs possible ends
of a raw value against the tool's schema. -/

namespace ExQServe.ToolWire

open ExQServe.Search ExQServe.Model

/-! ## Decode hints -/

structure QwenToolDecodeHints where
  schema : JsonSchema
  declaredNames : List PyStr
  stringNames : List PyStr
  dynamicString : Bool
  declaredNamesExhaustive : Bool

def schemaTypeOf (rootSchema : JsonObject) : JsonValue → Option PyStr
  | .dict propertySchema => qwenPropertySchemaType rootSchema propertySchema
  | _ => none

def qwenToolDecodeHints (tool : FunctionTool) : QwenToolDecodeHints :=
  let schema := tool.parameters.document
  let properties :=
    match schema.get? (py "properties") with
    | some (.dict properties) => properties
    | _ => []
  let additional := schema.get? (py "additionalProperties")
  { schema := tool.parameters
    declaredNames := properties.map Prod.fst
    stringNames := (properties.filter fun entry =>
      schemaTypeOf schema entry.2 = some (py "string")).map Prod.fst
    dynamicString := decide (additional.bind (schemaTypeOf schema) = some (py "string"))
    declaredNamesExhaustive :=
      (match additional with
      | some (.bool false) => true
      | _ => false) &&
      (match schema.get? (py "patternProperties") with
      | none => true
      | some .null => true
      | some (.dict []) => true
      | _ => false) }

/-! ## Source literals -/

def sourceLiteralDelimiters : List PyStr :=
  [py "'''", py "\"\"\"", py "```", py "'", py "\"", py "`"]

def unclosedLiteralFrom (source : PyStr) : Nat → Option PyStr → Nat → Bool
  | 0, delimiter, _ => delimiter.isSome
  | fuel + 1, delimiter, position =>
      if source.length ≤ position then delimiter.isSome
      else
        match delimiter with
        | none =>
            match sourceLiteralDelimiters.find? fun candidate =>
                candidate <+: source.drop position with
            | none => unclosedLiteralFrom source fuel none (position + 1)
            | some found => unclosedLiteralFrom source fuel (some found) (position + found.length)
        | some opened =>
            if opened <+: source.drop position ∧ ¬escapedAt source 0 position then
              unclosedLiteralFrom source fuel none (position + opened.length)
            else unclosedLiteralFrom source fuel (some opened) (position + 1)

/-- Every turn of the scan moves on, so the length of the source bounds them. -/
def qwenHasUnclosedSourceLiteral (source : PyStr) : Bool :=
  unclosedLiteralFrom source (source.length + 1) none 0

/-- The scan of the engine over the whole source, for six delimiters. -/
def qwenBalancedSourceLiteralContains (source : PyStr) (candidate : Nat) : Bool :=
  balancedDelimiterContains source 0 candidate sourceLiteralDelimiters

def qwenFullCloseChainEnd (source : PyStr) (closeAt : Nat) : Option Nat :=
  if ¬parameterCloseText <+: source.drop closeAt then none
  else
    let functionAt := skipStructuralWs source (closeAt + parameterCloseText.length)
    if ¬functionCloseText <+: source.drop functionAt then none
    else
      let toolAt := skipStructuralWs source (functionAt + functionCloseText.length)
      if ¬toolCloseText <+: source.drop toolAt then none
      else some (toolAt + toolCloseText.length)

/-! ## Authorities -/

def qwenNonconstrainedPlan (spec : ToolWireSpec) (allowParallel : Bool) :
    CompiledToolWirePlan where
  specFingerprint := spec
  allowParallel := allowParallel
  tools := []
  disposition := .validationOnly
  maxCallsPerSequence := none
  maxCallsPositive := noLimit_positive
  toolNamesUnique := noTools_unique

/-- Facts for decoding alone. The hints of a tool are those of its declaration: the
hints that `compile_qwen_tool_wire_decode_plan` computes in advance are the ones that
are computed on demand for the tools it leaves out. -/
structure QwenToolWireDecodeCompilation where
  spec : ToolWireSpec
  plan : CompiledToolWirePlan
  policy : Option ToolPolicy
  ownPlan : plan.specFingerprint = spec

namespace QwenToolWireDecodeCompilation

def hintsFor (authority : QwenToolWireDecodeCompilation) (toolName : PyStr) :
    Option QwenToolDecodeHints :=
  (authority.policy.bind (·.getTool toolName)).map qwenToolDecodeHints

def untyped (authority : QwenToolWireDecodeCompilation) : Bool :=
  authority.spec.specId == qwenUntypedCompatibilityDecodeToolWireSpec.specId

end QwenToolWireDecodeCompilation

/-- The authority of `build_qwen_untyped_tool_region_decoder`. -/
def qwenUntypedDecodeCompilation : QwenToolWireDecodeCompilation where
  spec := qwenUntypedCompatibilityDecodeToolWireSpec
  plan := qwenNonconstrainedPlan _ true
  policy := none
  ownPlan := rfl

/-! ## Ends of a raw value -/

structure SemanticWork where
  candidates : Nat
  workChars : Nat
deriving DecidableEq, Repr

/-- A computation that keeps what it spent when it raises. -/
abbrev Arbitrating := ExceptT EngineFailure (StateM SemanticWork)

def qwenCompatSuffixMaxBytes : Nat := 64 * 1024
def qwenCompatProbeWorkMaxChars : Nat := 64 * 1024
def qwenCompatSemanticWorkMaxChars : Nat := 64 * 1024
def qwenCompatSemanticCandidateMax : Nat := 256

def candidateValue (codec : ValueCodecKind) (rawValue : PyStr) : Option JsonValue :=
  if codec = .rawJsonOrText then
    let normalized := rawValue.strip
    some ((parseJsonStrict normalized).getD (.str normalized))
  else (codec.decodeRawPayload rawValue).map .str

/-- The arguments decoded so far; `none` stands for `InvalidJsonError`. -/
def occurrenceArguments (occurrences : List WireArgumentOccurrence) : Option JsonObject :=
  occurrences.mapM fun occurrence =>
    (parseJsonStrict occurrence.canonicalValueJson).map fun value => (occurrence.name, value)

/-- The checks of a closing continuation: `_compatibility_raw_close_candidate`. -/
def rawCloseContinues (hints : Option QwenToolDecodeHints) (argumentName : PyStr)
    (seenArgumentNames : List PyStr) (source : PyStr) (closeEnd : Nat) : Bool :=
  let position := skipStructuralWs source closeEnd
  if functionCloseText <+: source.drop position then
    decide (toolCloseText <+: source.drop
      (skipStructuralWs source (position + functionCloseText.length)))
  else if ¬parameterOpenPrefix <+: source.drop position then false
  else
    let nameStart := position + parameterOpenPrefix.length
    match findFrom (py ">") source nameStart with
    | none => false
    | some headerEnd =>
        let nextName := source.slice nameStart headerEnd
        if nextName = [] ∨ nextName.any fun char => qwenNameForbidden.contains [char] then
          false
        else if nextName = argumentName ∨ nextName ∈ seenArgumentNames then true
        else
          !hints.any fun hints =>
            hints.declaredNamesExhaustive && !hints.declaredNames.contains nextName

section Compatibility

variable (isValid : JsonSchema → JsonValue → Bool) (authority : QwenToolWireDecodeCompilation)

def compatibilityVariant (toolName argumentName : PyStr) : Option String :=
  if authority.untyped then
    some (authority.spec.argumentFramings.head authority.spec.framingsNonempty).variantId
  else
    match authority.hintsFor toolName with
    | none => some qwenJsonStructured
    | some hints =>
        if hints.stringNames.contains argumentName then some qwenRawString
        else if hints.declaredNames.contains argumentName then some qwenJsonStructured
        else if hints.dynamicString then some qwenRawString
        else some qwenJsonStructured

/-- Whether the call so far, with the candidate's value for the argument, is valid for
the tool's schema. -/
def candidateArgumentsValid (toolName argumentName : PyStr) (hints : QwenToolDecodeHints)
    (occurrences : List WireArgumentOccurrence) (rawValue : PyStr) : EngineResult Bool :=
  let names := occurrences.map WireArgumentOccurrence.name
  if argumentName ∈ names ∨ ¬names.Nodup then .ok false
  else
    match occurrenceArguments occurrences with
    | none => .ok false
    | some arguments =>
        match compatibilityVariant authority toolName argumentName with
        | none => .ok true
        | some variantId =>
            match authority.spec.framingVariant variantId with
            | none => .error (.keyError variantId)
            | some variant =>
                match candidateValue variant.valueFraming.codec rawValue with
                | none => .ok false
                | some decodedValue =>
                    .ok (isValid hints.schema (.dict (arguments ++ [(argumentName, decodedValue)])))

def candidateSchemaValid (toolName argumentName : PyStr)
    (occurrences : List WireArgumentOccurrence) (source : PyStr) (rawStart rawEnd : Nat) :
    Arbitrating (Option Bool) := do
  if rawEnd < rawStart then pure (some false)
  else
    let candidateChars := rawEnd - rawStart
    let work ← get
    if qwenCompatSemanticCandidateMax ≤ work.candidates ∨
        qwenCompatSemanticWorkMaxChars < work.workChars + candidateChars then pure none
    else
      set (⟨work.candidates + 1, work.workChars + candidateChars⟩ : SemanticWork)
      match authority.hintsFor toolName with
      | none => pure (some true)
      | some hints =>
          let valid ← liftEngine (candidateArgumentsValid isValid authority toolName
            argumentName hints occurrences (source.slice rawStart rawEnd))
          pure (some valid)

def compatibilityRawCloseCandidate (toolName argumentName : PyStr)
    (seenArgumentNames : List PyStr) (source : PyStr) (closeEnd : Nat) : Bool :=
  rawCloseContinues (authority.hintsFor toolName) argumentName seenArgumentNames source closeEnd

def compatibilityOptions (completedCalls : Nat) : CompatibilityOptions Arbitrating where
  completedCallOffset := completedCalls
  argumentVariantResolver := some (compatibilityVariant authority)
  rawCloseCandidateAcceptor := some (compatibilityRawCloseCandidate authority)
  rawFullCloseSemanticAcceptor := some (candidateSchemaValid isValid authority)

def decodeCompatibilitySource (completedCalls : Nat) (work : SemanticWork) (source : PyStr) :
    EngineResult ProductionToolWireResult × SemanticWork :=
  (decodeToolWireCompatibilityRegion (compatibilityOptions isValid authority completedCalls)
    source authority.spec authority.plan).run work

end Compatibility

/-! ## The text after a region -/

/-- The next parameter close or Tool opener from `cursor` on, and whether it is a
close. -/
def nextSuffixMarker (suffix : PyStr) (cursor : Nat) : Option (Nat × Bool) :=
  match findFrom parameterCloseText suffix cursor, findFrom toolOpenText suffix cursor with
  | none, none => none
  | some parameterAt, none => some (parameterAt, true)
  | none, some toolAt => some (toolAt, false)
  | some parameterAt, some toolAt =>
      if parameterAt ≤ toolAt then some (parameterAt, true) else some (toolAt, false)

/-- The options of the decoder that probes a suffix: it knows no tool and weighs no
schema. -/
def suffixProbeOptions : CompatibilityOptions EngineResult where
  completedCallOffset := 0
  argumentVariantResolver := none
  rawCloseCandidateAcceptor :=
    some (compatibilityRawCloseCandidate qwenUntypedDecodeCompilation)
  rawFullCloseSemanticAcceptor := none

/-- A suffix is clean where no complete Tool wire is cut short or ambiguous in it. -/
structure SuffixDisposition where
  clean : Bool
  incompleteAfterRejectedOpener : Bool
deriving DecidableEq, Repr

def cleanSuffix : SuffixDisposition := ⟨true, false⟩
def ambiguousSuffix : SuffixDisposition := ⟨false, false⟩

def scanSuffix (suffix : PyStr) : Nat → Bool → Nat → EngineResult SuffixDisposition
  | 0, _, _ => .error .fuelExhausted
  | fuel + 1, rejectedOpenerSeen, cursor =>
      match nextSuffixMarker suffix cursor with
      | none => .ok cleanSuffix
      | some (markerAt, true) =>
          if qwenBalancedSourceLiteralContains suffix markerAt then
            scanSuffix suffix fuel rejectedOpenerSeen (markerAt + parameterCloseText.length)
          else if (qwenFullCloseChainEnd suffix markerAt).isSome then .ok ambiguousSuffix
          else scanSuffix suffix fuel rejectedOpenerSeen (markerAt + parameterCloseText.length)
      | some (markerAt, false) =>
          let afterOpener := markerAt + toolOpenText.length
          if qwenBalancedSourceLiteralContains suffix markerAt then
            scanSuffix suffix fuel rejectedOpenerSeen afterOpener
          else
            match classifyCompatibilityFunctionOpener suffix
                qwenUntypedDecodeCompilation.spec afterOpener with
            | .incomplete => .ok ⟨false, rejectedOpenerSeen⟩
            | .malformed =>
                match findFrom toolOpenText suffix afterOpener with
                | none => .ok cleanSuffix
                | some nextTool => scanSuffix suffix fuel true nextTool
            | _ =>
                match decodeToolWireCompatibilityRegion suffixProbeOptions
                    (suffix.drop markerAt) qwenUntypedDecodeCompilation.spec
                    qwenUntypedDecodeCompilation.plan with
                | .error failure => .error failure
                | .ok probe =>
                    if probe.status ≠ .complete ∨ probe.sequence = none ∨
                        probe.rawRegion = [] then .ok ambiguousSuffix
                    else
                      scanSuffix suffix fuel rejectedOpenerSeen
                        (markerAt + probe.rawRegion.length)

def compatibilitySuffixDisposition (suffix : PyStr) : EngineResult SuffixDisposition :=
  if ¬suffix.utf8Encodable ∨ qwenCompatSuffixMaxBytes < suffix.utf8Length then
    .ok ambiguousSuffix
  else scanSuffix suffix (suffix.length + 1) false 0

/-- The openers from `cursor` on that the decoder takes for text, up to the first one
it does not. -/
def literalToolOpensFrom (spec : ToolWireSpec) (remainder : PyStr) : Nat → Nat → List Nat
  | 0, _ => []
  | fuel + 1, cursor =>
      match findFrom toolOpenText remainder cursor with
      | none => []
      | some markerAt =>
          let afterOpener := markerAt + toolOpenText.length
          if qwenBalancedSourceLiteralContains remainder markerAt ∨
              classifyCompatibilityFunctionOpener remainder spec afterOpener = .malformed then
            markerAt :: literalToolOpensFrom spec remainder fuel afterOpener
          else []

def literalToolOpenOffsets (authority : Option QwenToolWireDecodeCompilation)
    (remainder : PyStr) : List Nat :=
  match authority with
  | none => []
  | some authority =>
      literalToolOpensFrom authority.spec remainder (remainder.length + 1) 0

end ExQServe.ToolWire
