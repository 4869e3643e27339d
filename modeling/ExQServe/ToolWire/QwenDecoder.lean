import ExQServe.ToolWire.QwenRegion
import ExQServe.ToolWire.SessionChunking

/-! # The Qwen decoder as a Tool-region decoder

The rest of `QwenToolRegionDecoder`: its state, its methods, and the decoders that the
`build_qwen_…` functions make. -/

namespace ExQServe.ToolWire

open ExQServe.Search ExQServe.Model

/-! ## Results -/

inductive TranslationStop
  | issue (code : String)
  | raised (failure : ParserFailure)
deriving DecidableEq

def translateOccurrences (seen : List PyStr) :
    List WireArgumentOccurrence → Except TranslationStop JsonObject
  | [] => .ok []
  | occurrence :: occurrences =>
      if occurrence.name ∈ seen then .error (.issue "duplicate_argument")
      else
        match parseJsonStrict occurrence.canonicalValueJson with
        | none => .error (.raised (.valueError "invalid JSON"))
        | some value => do
            let arguments ← translateOccurrences (occurrence.name :: seen) occurrences
            return (occurrence.name, value) :: arguments

def orderedFragment (occurrence : WireArgumentOccurrence) : PyStr :=
  canonicalJsonDumps (.str occurrence.name) ++ chr ':' :: occurrence.canonicalValueJson

def renderArguments (preserveOccurrenceOrder : Bool)
    (occurrences : List WireArgumentOccurrence) (arguments : JsonObject) : Option PyStr :=
  if preserveOccurrenceOrder then
    let argumentsJson :=
      chr '{' :: Json.joinComma (occurrences.map orderedFragment) ++ py "\x7d"
    if (parseJsonStrict argumentsJson).isSome ∧ PyStr.utf8Encodable argumentsJson then
      some argumentsJson
    else none
  else canonicalUtf8JsonDumps (.dict arguments)

def decodedCall (name argumentsJson : PyStr) : Except TranslationStop DecodedToolRegionCall :=
  if nameNonBlank : NonBlank name then
    if argumentsNonBlank : NonBlank argumentsJson then
      .ok ⟨name, argumentsJson, nameNonBlank, argumentsNonBlank⟩
    else .error (.raised (.valueError "arguments_json must not be empty"))
  else .error (.raised (.valueError "name must not be empty"))

def translateCall (preserveOccurrenceOrder : Bool) (call : WireToolCall) :
    Except TranslationStop DecodedToolRegionCall := do
  let arguments ← translateOccurrences [] call.occurrences
  match renderArguments preserveOccurrenceOrder call.occurrences arguments with
  | none => .error (.issue "tool_arguments_not_utf8")
  | some argumentsJson => decodedCall call.name argumentsJson

def rejectedResult (remainder rawRegion : PyStr) (issueCode : String) :
    ToolRegionDecodeResult :=
  ⟨false, [], remainder, rawRegion, some issueCode, [], by simp, by simp, by simp⟩

/-- `_translate_result`; the authority is that of a validation-only decoder. -/
def translateResult (authority : Option QwenToolWireDecodeCompilation)
    (result : ProductionToolWireResult) : ParserResult ToolRegionDecodeResult :=
  match result.status, result.sequence with
  | .complete, some sequence =>
      match sequence.calls.mapM (translateCall authority.isSome) with
      | .error (.raised failure) => .error failure
      | .error (.issue code) =>
          .ok (rejectedResult result.remainder result.rawRegion code)
      | .ok calls =>
          ToolRegionDecodeResult.checked true calls result.remainder result.rawRegion none
            (literalToolOpenOffsets authority result.remainder)
  | _, _ =>
      let issueCode := (result.issues.head?.map EngineIssue.code).getD "incomplete_wire"
      if issueCode = "raw_boundary_ambiguous" ∧ authority.any (·.untyped) then
        .ok (rejectedResult result.remainder result.rawRegion
          "raw_boundary_ambiguous_incomplete")
      else .ok (rejectedResult result.remainder result.rawRegion issueCode)

/-! ## The decoder -/

inductive QwenReading
  | constrained (plan : QwenProductionPlan) (session : ProductionToolWireSession)
  | compatibility (authority : QwenToolWireDecodeCompilation) (source : PyStr)
      (probeWorkChars : Nat) (work : SemanticWork)

structure QwenToolRegionDecoder where
  completedCalls : Nat
  reading : QwenReading

/-- What a decoder is made for. The authority of a constrained decoder is paired with the
production specification wherever one is built. -/
inductive QwenDecodeAuthority
  | constrained (plan : QwenProductionPlan)
  | compatibility (authority : QwenToolWireDecodeCompilation)

namespace QwenToolRegionDecoder

def create (authority : QwenDecodeAuthority) (completedCalls : Nat) : QwenToolRegionDecoder where
  completedCalls := completedCalls
  reading :=
    match authority with
    | .constrained plan => .constrained plan .fresh
    | .compatibility authority => .compatibility authority [] 0 ⟨0, 0⟩

def toolWire (result : EngineResult β) : ParserResult β := result.mapError .toolWire

def feed (decoder : QwenToolRegionDecoder) (chunk : PyStr) :
    ParserResult QwenToolRegionDecoder :=
  match decoder.reading with
  | .constrained plan session =>
      toolWire ((ProductionToolWireSession.feed
        (qwenSessionConfig plan decoder.completedCalls true) session chunk).map fun fed =>
          { decoder with reading := .constrained plan fed.1 })
  | .compatibility authority source probeWorkChars work =>
      .ok { decoder with
        reading := .compatibility authority (source ++ chunk) probeWorkChars work }

section

variable (isValid : JsonSchema → JsonValue → Bool)

def finishCompatibility (authority : QwenToolWireDecodeCompilation) (source : PyStr)
    (result : ProductionToolWireResult) : ParserResult ToolRegionDecodeResult := do
  if result.status = .complete ∧ result.remainder ≠ [] then
    let disposition ← toolWire (compatibilitySuffixDisposition result.remainder)
    if disposition.clean then translateResult (some authority) result
    else if disposition.incompleteAfterRejectedOpener then
      .ok (rejectedResult [] source "incomplete_wire")
    else if authority.untyped then
      .ok (rejectedResult [] source "raw_boundary_ambiguous_incomplete")
    else .ok (rejectedResult [] source "raw_boundary_ambiguous")
  else translateResult (some authority) result

def finish (decoder : QwenToolRegionDecoder) : ParserResult ToolRegionDecodeResult :=
  match decoder.reading with
  | .constrained plan session =>
      translateResult none (ProductionToolWireSession.finish
        (qwenSessionConfig plan decoder.completedCalls true) session).2
  | .compatibility authority source _ work => do
      let result ← toolWire
        (decodeCompatibilitySource isValid authority decoder.completedCalls work source).1
      finishCompatibility authority source result

def canProbeCompatibilityFinish (decoder : QwenToolRegionDecoder) : Bool :=
  match decoder.reading with
  | .constrained _ _ => false
  | .compatibility _ source probeWorkChars _ =>
      decide (probeWorkChars + source.length ≤ qwenCompatProbeWorkMaxChars)

def probeResultSchemaValid (authority : QwenToolWireDecodeCompilation)
    (result : ToolRegionDecodeResult) : Bool :=
  result.calls.all fun call =>
    match authority.hintsFor call.name with
    | none => true
    | some hints =>
        match parseJsonStrict call.argumentsJson with
        | some (.dict arguments) => isValid hints.schema (.dict arguments)
        | _ => false

/-- A probed region stands where it is complete and nothing in it or after it is in
doubt. -/
def acceptProbe (authority : QwenToolWireDecodeCompilation)
    (translated : ToolRegionDecodeResult) : Option ToolRegionDecodeResult :=
  if translated.complete ∧ probeResultSchemaValid isValid authority translated ∧
      translated.remainder.all isStructuralWs ∧
      ¬qwenHasUnclosedSourceLiteral translated.rawRegion then some translated
  else none

def probeCompatibilityFinish (decoder : QwenToolRegionDecoder) :
    ParserResult (Option ToolRegionDecodeResult × QwenToolRegionDecoder) :=
  match decoder.reading with
  | .constrained _ _ => .ok (none, decoder)
  | .compatibility authority source probeWorkChars work =>
      if ¬decoder.canProbeCompatibilityFinish then .ok (none, decoder)
      else do
        let (outcome, spent) :=
          decodeCompatibilitySource isValid authority decoder.completedCalls work source
        let result ← toolWire outcome
        let translated ← translateResult (some authority) result
        .ok (acceptProbe isValid authority translated,
          { decoder with
            reading := .compatibility authority source (probeWorkChars + source.length) spent })

end

end QwenToolRegionDecoder

def qwenToolRegionDecoder (isValid : JsonSchema → JsonValue → Bool)
    (authority : QwenDecodeAuthority) : ToolRegionDecoder QwenToolRegionDecoder where
  fresh := QwenToolRegionDecoder.create authority
  feed := QwenToolRegionDecoder.feed
  finish := QwenToolRegionDecoder.finish isValid
  compatibility := some ⟨QwenToolRegionDecoder.canProbeCompatibilityFinish,
    QwenToolRegionDecoder.probeCompatibilityFinish isValid⟩

end ExQServe.ToolWire
