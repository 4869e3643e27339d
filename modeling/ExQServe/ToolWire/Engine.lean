import ExQServe.ToolWire.Contracts

/-! # Tool-wire engine

The parser of `tool_wire/engine.py`: terminals, values, one Tool sequence, and
the membership check against a compiled plan. A cursor is a position in the
whole source, as in Python. -/

namespace ExQServe.ToolWire

open ExQServe.Search

inductive EngineStatus
  | inProgress
  | complete
  | incomplete
  | malformed
deriving DecidableEq, Repr

structure EngineIssue where
  code : String
  message : Message
  offset : Option Nat
deriving DecidableEq

/-- What the parser can raise. A loop that runs out of fuel is an outcome of its
own, so that no result can be mistaken for it. -/
inductive EngineFailure
  | needMore
  | malformed (code : String) (message : Message) (offset : Nat)
  | keyError (key : String)
  | fuelExhausted
deriving DecidableEq

abbrev EngineResult := Except EngineFailure

/-! ## Terminals -/

def skipStructuralWs (source : PyStr) (cursor : Nat) : Nat :=
  cursor + (((source.drop cursor).take structuralWsMax).takeWhile isStructuralWs).length

def expectLiteral (source : PyStr) (cursor : Nat) (literal : PyStr) (code : String) :
    EngineResult Nat :=
  let remaining := source.drop cursor
  if literal <+: remaining then .ok (cursor + literal.length)
  else if remaining <+: literal then .error .needMore
  else
    .error (.malformed code [.text "expected structural terminal ", .repr literal] cursor)

def longestLength (texts : List PyStr) : Nat := (texts.map List.length).foldr max 0

def matchClose (source : PyStr) (cursor : Nat) (forms : List PyStr) (eos : Bool) :
    EngineResult (Option Nat) :=
  let remaining := source.drop cursor
  let fullMatches := forms.filter fun form => form <+: remaining
  let partialMatches := forms.filter fun form => remaining <+: form ∧ form ≠ remaining
  if fullMatches ≠ [] then
    if partialMatches ≠ [] ∧ ¬eos then .error .needMore
    else .ok (some (cursor + longestLength fullMatches))
  else if partialMatches ≠ [] then .error .needMore
  else .ok none

structure NamedMatch where
  name : PyStr
  stop : Nat
  terminal : NamedTerminal
deriving DecidableEq

def parseNamed (source : PyStr) (cursor : Nat) (terminal : NamedTerminal)
    (code : String) : EngineResult NamedMatch := do
  let nameStart ← expectLiteral source cursor terminal.prefixText code
  match findFrom terminal.nameTerminator source nameStart with
  | none => .error .needMore
  | some nameEnd =>
      let name := source.slice nameStart nameEnd
      if name = [] then
        .error (.malformed code (plain "name field is empty") nameStart)
      else
        let suffixAt := nameEnd + terminal.nameTerminator.length
        let suffixEnd ←
          if terminal.suffixRemainder = [] then .ok suffixAt
          else expectLiteral source suffixAt terminal.suffixRemainder code
        .ok ⟨name, suffixEnd, terminal⟩

/-! ## Structured values -/

/-- Positions of a string's characters are counted from the one at hand, which
stands at `position`; the result is the end of the string. -/
def scanQuoted : PyStr → Bool → Nat → EngineResult Nat
  | [], _, _ => .error .needMore
  | char :: rest, escaped, position =>
      if escaped then scanQuoted rest false (position + 1)
      else if char = chr '\\' then scanQuoted rest true (position + 1)
      else if char = chr '"' then .ok (position + 1)
      else scanQuoted rest false (position + 1)

structure ContainerState where
  stack : List PyChar
  inString : Bool
  escaped : Bool

def mismatchedClose (position : Nat) : EngineFailure :=
  .malformed "json_structure_malformed" (plain "mismatched JSON container close") position

/-- The rest of a container; the innermost open bracket is the stack's head. -/
def scanContainer : PyStr → ContainerState → Nat → EngineResult Nat
  | [], _, _ => .error .needMore
  | char :: rest, state, position =>
      if state.inString then
        if state.escaped then
          scanContainer rest { state with escaped := false } (position + 1)
        else if char = chr '\\' then
          scanContainer rest { state with escaped := true } (position + 1)
        else if char = chr '"' then
          scanContainer rest { state with inString := false } (position + 1)
        else scanContainer rest state (position + 1)
      else if char = chr '"' then
        scanContainer rest { state with inString := true } (position + 1)
      else if char = chr '{' ∨ char = chr '[' then
        scanContainer rest { state with stack := char :: state.stack } (position + 1)
      else if char = chr '}' ∨ char = chr ']' then
        let expected := if char = chr '}' then chr '{' else chr '['
        match state.stack with
        | [] => .error (mismatchedClose position)
        | innermost :: outer =>
            if innermost ≠ expected then .error (mismatchedClose position)
            else if outer = [] then .ok (position + 1)
            else scanContainer rest { state with stack := outer } (position + 1)
      else scanContainer rest state (position + 1)

/-- A complete literal name at the head of `remaining`, or a part of one that
ends the source. -/
def matchJsonName (remaining : PyStr) : List PyStr → EngineResult (Option Nat)
  | [] => .ok none
  | literal :: literals =>
      if literal <+: remaining then .ok (some literal.length)
      else if remaining <+: literal then .error .needMore
      else matchJsonName remaining literals

def isNumberChar (char : PyChar) : Bool := (py "0123456789+-.eE").contains char

/-- End of the JSON value that begins at `start`; only its lexical boundary is
found here. -/
def jsonValueEnd (source : PyStr) (start : Nat) : EngineResult Nat :=
  match source.drop start with
  | [] => .error .needMore
  | first :: rest =>
      if first = chr '{' ∨ first = chr '[' then
        scanContainer rest ⟨[first], false, false⟩ (start + 1)
      else if first = chr '"' then scanQuoted rest false (start + 1)
      else
        match matchJsonName (first :: rest) [py "true", py "false", py "null"] with
        | .error failure => .error failure
        | .ok (some length) => .ok (start + length)
        | .ok none =>
            if first = chr '-' ∨ first.isDigit then
              let stop := start + 1 + (rest.takeWhile isNumberChar).length
              if stop = source.length then .error .needMore else .ok stop
            else
              .error (.malformed "json_value_malformed"
                (plain "structured argument does not begin with a JSON value") start)

def scanJsonValue (source : PyStr) (cursor : Nat) : EngineResult (Nat × Nat) := do
  let start := skipStructuralWs source cursor
  let stop ← jsonValueEnd source start
  .ok (start, stop)

def canonicalStructuredValue (source : PyStr) (start stop : Nat) : EngineResult PyStr :=
  match parseJsonStrict (source.slice start stop) with
  | none =>
      .error (.malformed "json_value_malformed"
        (plain "structured argument is not strict JSON") start)
  | some value => .ok (canonicalJsonDumps value)

/-! ## Argument openers -/

def argumentOpenMalformed : String := "argument_open_malformed"

def matchVariants (source : PyStr) (cursor : Nat) :
    List ArgumentFramingVariant → List (ArgumentFramingVariant × NamedMatch) × Bool
  | [] => ([], false)
  | variant :: variants =>
      let later := matchVariants source cursor variants
      match parseNamed source cursor variant.argumentOpen argumentOpenMalformed with
      | .ok found => ((variant, found) :: later.1, later.2)
      | .error .needMore => (later.1, true)
      | .error _ => later

def parseVariantNamedTerminal (source : PyStr) (cursor : Nat)
    (variants : List ArgumentFramingVariant) :
    EngineResult (List ArgumentFramingVariant × NamedMatch) :=
  let matched := matchVariants source cursor variants
  match matched.1 with
  | [] =>
      if matched.2 then .error .needMore
      else
        .error (.malformed argumentOpenMalformed
          (plain "wire does not match any declared argument opener") cursor)
  | first :: others =>
      if others.any fun other => other.2.terminal ≠ first.2.terminal then
        .error (.malformed "argument_framing_ambiguous"
          (plain "multiple distinct argument framing openers match the same wire input")
          cursor)
      else if matched.2 then .error .needMore
      else .ok (matched.1.map Prod.fst, first.2)

/-! ## Raw values -/

/-- End of one JSON-quoted compatibility value, if the source holds one. -/
def completeJsonStringEnd (source : PyStr) (cursor : Nat) : Option Nat :=
  let blank := ((source.drop cursor).takeWhile PyChar.isSpace).length
  match source.drop (cursor + blank) with
  | [] => none
  | first :: rest =>
      if first = chr '"' then (scanQuoted rest false (cursor + blank + 1)).toOption
      else none

/-- An odd number of backslashes stands right before `position`. -/
def escapedAt (source : PyStr) (cursor position : Nat) : Bool :=
  ((source.slice cursor position).reverse.takeWhile (· = chr '\\')).length % 2 = 1

def findUnescaped (source : PyStr) (cursor : Nat) (delimiter : PyStr) :
    Nat → Nat → Option Nat
  | 0, _ => none
  | fuel + 1, start =>
      match findFrom delimiter source start with
      | none => none
      | some position =>
          if escapedAt source cursor position then
            findUnescaped source cursor delimiter fuel (position + delimiter.length)
          else some position

/-- `candidate` lies in one of the spans that the delimiter opens and closes
from `searchAt` on. -/
def delimiterContains (source : PyStr) (cursor candidate : Nat) (delimiter : PyStr) :
    Nat → Nat → Bool
  | 0, _ => false
  | fuel + 1, searchAt =>
      match findUnescaped source cursor delimiter (source.length + 1) searchAt with
      | none => false
      | some opened =>
          if candidate ≤ opened then false
          else
            match findUnescaped source cursor delimiter (source.length + 1)
                (opened + delimiter.length) with
            | none => false
            | some closed =>
                if candidate < closed then true
                else
                  delimiterContains source cursor candidate delimiter fuel
                    (closed + delimiter.length)

def balancedDelimiterContains (source : PyStr) (cursor candidate : Nat)
    (delimiters : List PyStr) : Bool :=
  delimiters.any fun delimiter =>
    delimiterContains source cursor candidate delimiter (source.length + 1) cursor

def balancedLiteralContains (source : PyStr) (cursor candidate : Nat) : Bool :=
  balancedDelimiterContains source cursor candidate
    [py "'''", py "\"\"\"", py "```", py "'", py "`"]

def balancedDoubleQuoteContains (source : PyStr) (cursor candidate : Nat) : Bool :=
  balancedDelimiterContains source cursor candidate [py "\""]

def skipSpace (source : PyStr) (cursor : Nat) : Nat :=
  cursor + ((source.drop cursor).takeWhile PyChar.isSpace).length

def longestFormEnd (source : PyStr) (cursor : Nat) (forms : List PyStr) : Option Nat :=
  let found := forms.filter fun form => form <+: source.drop cursor
  if found = [] then none else some (cursor + longestLength found)

def fullRawToolCloseEnd (source : PyStr) (argumentCloseEnd : Nat)
    (functionCloseForms toolCloseForms : List PyStr) : Option Nat :=
  match longestFormEnd source (skipSpace source argumentCloseEnd) functionCloseForms with
  | none => none
  | some functionEnd =>
      longestFormEnd source (skipSpace source functionEnd) toolCloseForms

/-- The keyword arguments of `_scan_raw_until`. Only the semantic acceptor can
have effects: it charges a work budget. -/
structure RawBoundary (m : Type → Type) where
  protectJsonString : Bool
  protectBalancedLiterals : Bool
  ambiguityFunctionCloses : List PyStr
  ambiguityToolCloses : List PyStr
  toolOpen : Option PyStr
  closeCandidateAcceptor : Option (Nat → Bool)
  fullCloseSemanticAcceptor : Option (Nat → m (Option Bool))

def closeOccurrences (source close : PyStr) : Nat → Nat → List Nat
  | 0, _ => []
  | fuel + 1, searchAt =>
      match findFrom close source searchAt with
      | none => []
      | some position =>
          position :: closeOccurrences source close fuel (position + close.length)

/-- What one occurrence of a close is: ignored, a complete close inside double
quotes, or a candidate end of the value. -/
inductive CloseOccurrence
  | ignored
  | quotedFullClose
  | candidate
deriving DecidableEq

section Raw

variable {m : Type → Type}

def classifyClose (boundary : RawBoundary m) (source : PyStr) (cursor : Nat)
    (protectedEnd : Option Nat) (position closeEnd : Nat) : CloseOccurrence :=
  if protectedEnd.any (position < ·) then .ignored
  else if boundary.protectBalancedLiterals ∧
      balancedDoubleQuoteContains source cursor position then
    if (fullRawToolCloseEnd source closeEnd boundary.ambiguityFunctionCloses
        boundary.ambiguityToolCloses).isSome then .quotedFullClose
    else .ignored
  else if boundary.protectBalancedLiterals ∧
      balancedLiteralContains source cursor position then .ignored
  else if boundary.closeCandidateAcceptor.any fun accept => !accept closeEnd then .ignored
  else .candidate

/-- Every occurrence of every close form, with its end and what it is. -/
def classifiedCloses (boundary : RawBoundary m) (source : PyStr) (cursor : Nat)
    (closeForms : List PyStr) : List (Nat × Nat × CloseOccurrence) :=
  let protectedEnd :=
    if boundary.protectJsonString then completeJsonStringEnd source cursor else none
  closeForms.flatMap fun close =>
    (closeOccurrences source close (source.length + 1) cursor).map fun position =>
      let closeEnd := position + close.length
      (position, closeEnd,
        classifyClose boundary source cursor protectedEnd position closeEnd)

/-- The order of Python's pairs. -/
def pairLe (left right : Nat × Nat) : Prop :=
  left.1 < right.1 ∨ (left.1 = right.1 ∧ left.2 ≤ right.2)

instance : DecidableRel pairLe := fun _ _ => inferInstanceAs (Decidable (_ ∨ _))

def mergeSpans (current : Nat × Nat) : List (Nat × Nat) → List (Nat × Nat)
  | [] => [current]
  | next :: rest =>
      if next.1 < current.2 then mergeSpans (current.1, max current.2 next.2) rest
      else current :: mergeSpans next rest

structure AnnotatedClose where
  position : Nat
  stop : Nat
  isFullClose : Bool
deriving DecidableEq

variable [Monad m] [MonadExceptOf EngineFailure m]

def liftEngine (result : EngineResult β) : m β :=
  match result with
  | .ok value => pure value
  | .error failure => throw failure

/-- The candidates the semantic acceptor admits, up to a later Tool opener. -/
def admissibleCloses (accept : Nat → m (Option Bool)) (nextToolAt : Option Nat) :
    Bool → List AnnotatedClose → m (List AnnotatedClose)
  | _, [] => pure []
  | acceptedBeforeOpener, candidate :: rest => do
      if nextToolAt.any (· ≤ candidate.position) ∧ acceptedBeforeOpener then pure []
      else if !candidate.isFullClose then
        let later ← admissibleCloses accept nextToolAt acceptedBeforeOpener rest
        pure (candidate :: later)
      else
        match ← accept candidate.position with
        | none =>
            throw (EngineFailure.malformed "compatibility_semantic_work_exceeded"
              (plain "RAW Tool boundary semantic arbitration exceeded its hard work budget")
              candidate.position)
        | some true =>
            let later ← admissibleCloses accept nextToolAt
              (acceptedBeforeOpener || nextToolAt.any (candidate.position < ·)) rest
            pure (candidate :: later)
        | some false => admissibleCloses accept nextToolAt acceptedBeforeOpener rest

/-- Choose among several candidates when the first one closes the whole Tool. -/
def arbitrateCloses (boundary : RawBoundary m) (source : PyStr) (firstToolEnd : Nat)
    (first : Nat × Nat) (candidates : List (Nat × Nat)) : m (Nat × Nat) := do
  let nextToolAt := boundary.toolOpen.bind fun toolOpen =>
    findFrom toolOpen source firstToolEnd
  let annotated := candidates.map fun candidate =>
    { position := candidate.1
      stop := candidate.2
      isFullClose := (fullRawToolCloseEnd source candidate.2
        boundary.ambiguityFunctionCloses boundary.ambiguityToolCloses).isSome :
      AnnotatedClose }
  match boundary.fullCloseSemanticAcceptor with
  | some accept =>
      match ← admissibleCloses accept nextToolAt false annotated with
      | [] => pure first
      | selected :: others =>
          let fullCloses := (selected :: others).filter (·.isFullClose)
          if selected.isFullClose ∧ 1 < fullCloses.length then
            throw (EngineFailure.malformed "raw_boundary_ambiguous"
              (plain ("raw Tool argument admits more than one semantically valid " ++
                "structural close")) selected.position)
          else pure (selected.position, selected.stop)
  | none =>
      let fullCloses := annotated.filter fun candidate =>
        !nextToolAt.any (· ≤ candidate.position) && candidate.isFullClose
      if 1 < fullCloses.length then
        throw (EngineFailure.malformed "raw_boundary_ambiguous"
          (plain "raw Tool argument admits more than one complete structural close") first.1)
      else pure first

/-- The raw content and the end of its first structural close. -/
def scanRawUntil (boundary : RawBoundary m) (source : PyStr) (cursor : Nat)
    (closeForms : List PyStr) : m (PyStr × Nat) := do
  let closes := classifiedCloses boundary source cursor closeForms
  let rawCandidates := (closes.filter fun close => close.2.2 = .candidate).map
    fun close => (close.1, close.2.1)
  let quotedFullCloses := (closes.filter fun close => close.2.2 = .quotedFullClose).map
    Prod.fst
  match rawCandidates.insertionSort pairLe with
  | [] => throw EngineFailure.needMore
  | earliest :: others =>
      match quotedFullCloses.min? with
      | some quotedAt =>
          throw (EngineFailure.malformed "raw_boundary_ambiguous"
            (plain ("raw Tool argument admits a complete close inside a balanced " ++
              "double-quoted span")) quotedAt)
      | none =>
          let candidates := mergeSpans earliest others
          let first := candidates.headD earliest
          if !closeForms.any fun close => close <+: source.drop first.1 then
            throw (EngineFailure.malformed "argument_close_malformed"
              (plain "raw argument did not terminate with its declared close language")
              first.1)
          else
            let selected ←
              match fullRawToolCloseEnd source first.2 boundary.ambiguityFunctionCloses
                  boundary.ambiguityToolCloses with
              | some firstToolEnd =>
                  if 1 < candidates.length then
                    arbitrateCloses boundary source firstToolEnd first candidates
                  else pure first
              | none => pure first
            pure (source.slice cursor selected.1, selected.2)

end Raw

/-! ## One Tool sequence -/

structure ParseOptions (m : Type → Type) where
  eos : Bool
  allowTrailing : Bool
  compatibilityRawBoundaries : Bool
  argumentVariantResolver : Option (PyStr → PyStr → Option String)
  rawCloseCandidateAcceptor : Option (PyStr → PyStr → List PyStr → PyStr → Nat → Bool)
  rawFullCloseSemanticAcceptor :
    Option (PyStr → PyStr → List WireArgumentOccurrence → PyStr → Nat → Nat →
      m (Option Bool))

def plannedVariantId (plan : CompiledToolWirePlan) (toolName argumentName : PyStr) :
    Option String :=
  match plan.tool toolName with
  | none => none
  | some tool =>
      match tool.arguments.find? (·.name = argumentName) with
      | none => none
      | some argument => argument.framingVariantId

section Sequence

variable {m : Type → Type} [Monad m] [MonadExceptOf EngineFailure m]

def selectVariant (spec : ToolWireSpec) (plannedVariant : Option String)
    (candidates : List ArgumentFramingVariant) (cursor : Nat) :
    EngineResult ArgumentFramingVariant :=
  match plannedVariant with
  | none =>
      match candidates with
      | [variant] => .ok variant
      | _ =>
          .error (.malformed "argument_framing_plan_missing"
            (plain "shared argument opener requires a compiled branch to select value framing")
            cursor)
  | some variantId =>
      match spec.framingVariant variantId with
      | none => .error (.keyError variantId)
      | some variant =>
          if candidates.contains variant then .ok variant
          else
            .error (.malformed "argument_framing_plan_mismatch"
              (plain "wire argument framing contradicts the compiled branch") cursor)

def parseStructuredValue (variant : ArgumentFramingVariant) (source : PyStr)
    (cursor : Nat) (eos : Bool) : EngineResult (PyStr × Nat) := do
  let value ← scanJsonValue source cursor
  let canonicalValueJson ← canonicalStructuredValue source value.1 value.2
  match ← matchClose source value.2 variant.argumentClose.texts eos with
  | some closeEnd => .ok (canonicalValueJson, closeEnd)
  | none =>
      -- whitespace is skipped only where no close begins at the value's end
      let afterValue := skipStructuralWs source value.2
      match ← matchClose source afterValue variant.argumentClose.texts eos with
      | some closeEnd => .ok (canonicalValueJson, closeEnd)
      | none =>
          .error (.malformed "argument_close_malformed"
            (plain "structured JSON value is not followed by its declared argument close")
            afterValue)

def decodeRawValue (codec : ValueCodecKind) (rawValue : PyStr) (cursor : Nat) :
    EngineResult PyStr :=
  if codec = .rawJsonOrText then
    let normalized := rawValue.strip
    match canonicalUtf8JsonDumps ((parseJsonStrict normalized).getD (.str normalized)) with
    | some canonicalValueJson => .ok canonicalValueJson
    | none =>
        .error (.malformed "raw_value_decode_failed"
          (plain "raw Tool argument could not be decoded into transport-safe JSON-or-text")
          cursor)
  else
    match codec.decodeRawPayload rawValue with
    | some decoded => .ok (canonicalJsonDumps (.str decoded))
    | none =>
        .error (.malformed "raw_value_decode_failed"
          (plain "raw Tool argument could not be decoded into transport-safe text") cursor)

def rawBoundary (options : ParseOptions m) (spec : ToolWireSpec) (codec : ValueCodecKind)
    (toolName argumentName : PyStr) (occurrences : List WireArgumentOccurrence)
    (source : PyStr) (rawStart : Nat) : RawBoundary m where
  protectJsonString :=
    decide (codec = .rawStringStripJsonStringOrText ∨ codec = .rawJsonOrText)
  protectBalancedLiterals := options.compatibilityRawBoundaries
  ambiguityFunctionCloses :=
    if options.compatibilityRawBoundaries then spec.functionClose.texts else []
  ambiguityToolCloses :=
    if options.compatibilityRawBoundaries then spec.toolClose.texts else []
  toolOpen :=
    if options.compatibilityRawBoundaries then some spec.toolOpen.text else none
  closeCandidateAcceptor := options.rawCloseCandidateAcceptor.map fun accept =>
    accept toolName argumentName (occurrences.map WireArgumentOccurrence.name) source
  fullCloseSemanticAcceptor := options.rawFullCloseSemanticAcceptor.map fun accept =>
    accept toolName argumentName occurrences source rawStart

def parseArgumentValue (options : ParseOptions m) (spec : ToolWireSpec)
    (variant : ArgumentFramingVariant) (toolName argumentName : PyStr)
    (occurrences : List WireArgumentOccurrence) (source : PyStr)
    (cursor valueStart : Nat) : m (PyStr × Nat) :=
  let framing := variant.valueFraming
  if framing.kind = .structuredEscaped ∧ framing.codec = .json then
    liftEngine (parseStructuredValue variant source valueStart options.eos)
  else if framing.kind = .rawUntil ∧
      (framing.codec = .rawString ∨ framing.codec = .rawStringStripJsonStringOrText ∨
        framing.codec = .rawJsonOrText) then do
    let boundary := rawBoundary options spec framing.codec toolName argumentName
      occurrences source valueStart
    let raw ← scanRawUntil boundary source valueStart variant.argumentClose.texts
    let canonicalValueJson ← liftEngine (decodeRawValue framing.codec raw.1 valueStart)
    pure (canonicalValueJson, raw.2)
  else
    throw (EngineFailure.malformed "unsupported_value_framing"
      (plain "shared engine supports structured JSON or RAW_UNTIL raw-string framing") cursor)

def parseArgument (options : ParseOptions m) (spec : ToolWireSpec)
    (plan : CompiledToolWirePlan) (toolName : PyStr)
    (occurrences : List WireArgumentOccurrence) (source : PyStr) (cursor : Nat) :
    m (WireArgumentOccurrence × Nat) := do
  let (candidates, found) ←
    liftEngine (parseVariantNamedTerminal source cursor spec.argumentFramings)
  match spec.argumentNameCodec.decode found.name with
  | none =>
      throw (EngineFailure.malformed "argument_name_decode_failed"
        (plain "argument name codec rejected wire name") cursor)
  | some argumentName =>
      let plannedVariant := (plannedVariantId plan toolName argumentName).or
        (options.argumentVariantResolver.bind fun resolve => resolve toolName argumentName)
      let variant ← liftEngine (selectVariant spec plannedVariant candidates cursor)
      if !spec.argumentNameCodec.isLosslesslyRepresentableForTerminal argumentName
          variant.argumentOpen then
        throw (EngineFailure.malformed "argument_name_not_representable"
          (plain "argument name is outside the declared static wire-name language") cursor)
      else
        let (canonicalValueJson, argumentCloseEnd) ←
          parseArgumentValue options spec variant toolName argumentName occurrences source
            cursor found.stop
        pure (⟨argumentName, canonicalValueJson, some variant.variantId⟩, argumentCloseEnd)

def parseArguments (options : ParseOptions m) (spec : ToolWireSpec)
    (plan : CompiledToolWirePlan) (toolName : PyStr) (source : PyStr) :
    Nat → List WireArgumentOccurrence → Nat → m (List WireArgumentOccurrence × Nat)
  | 0, _, _ => throw EngineFailure.fuelExhausted
  | fuel + 1, occurrences, cursor => do
      let cursor := skipStructuralWs source cursor
      match ← liftEngine (matchClose source cursor spec.functionClose.texts options.eos) with
      | some functionCloseEnd => pure (occurrences, functionCloseEnd)
      | none =>
          let (occurrence, argumentCloseEnd) ←
            parseArgument options spec plan toolName occurrences source cursor
          parseArguments options spec plan toolName source fuel (occurrences ++ [occurrence])
            argumentCloseEnd

def parseFunctionOpen (spec : ToolWireSpec) (source : PyStr) (cursor : Nat) :
    EngineResult (PyStr × Nat) := do
  let function ← parseNamed source cursor spec.functionOpen "function_open_malformed"
  match spec.functionNameCodec.decode function.name with
  | none =>
      .error (.malformed "function_name_decode_failed"
        (plain "function name codec rejected wire name") cursor)
  | some toolName =>
      if spec.functionNameCodec.isLosslesslyRepresentableForTerminal toolName
          spec.functionOpen then
        .ok (toolName, function.stop)
      else
        .error (.malformed "function_name_not_representable"
          (plain "function name is outside the declared static wire-name language") cursor)

def finishSequence (options : ParseOptions m) (spec : ToolWireSpec) (source : PyStr)
    (cursor toolCloseEnd : Nat) (calls : List WireToolCall) :
    EngineResult (WireToolSequence × Nat) :=
  if calls.length < spec.multiplicity.minCallsPerSequence then
    .error (.malformed "tool_multiplicity_below_minimum"
      (plain "Tool sequence is below the declared static minimum multiplicity") cursor)
  else if options.allowTrailing then .ok (⟨calls⟩, toolCloseEnd)
  else
    let stop := skipStructuralWs source toolCloseEnd
    if stop ≠ source.length then
      .error (.malformed "trailing_wire"
        (plain "non-whitespace data follows the Tool sequence") stop)
    else .ok (⟨calls⟩, stop)

def parseCalls (options : ParseOptions m) (spec : ToolWireSpec)
    (plan : CompiledToolWirePlan) (source : PyStr) :
    Nat → List WireToolCall → Nat → m (WireToolSequence × Nat)
  | 0, _, _ => throw EngineFailure.fuelExhausted
  | fuel + 1, calls, cursor => do
      let cursor := skipStructuralWs source cursor
      match ← liftEngine (matchClose source cursor spec.toolClose.texts options.eos) with
      | some toolCloseEnd =>
          liftEngine (finishSequence options spec source cursor toolCloseEnd calls)
      | none =>
          let (toolName, bodyStart) ← liftEngine (parseFunctionOpen spec source cursor)
          let (occurrences, functionCloseEnd) ←
            parseArguments options spec plan toolName source (source.length + 1) [] bodyStart
          parseCalls options spec plan source fuel
            (calls ++ [⟨toolName, calls.length, occurrences⟩]) functionCloseEnd

/-- `_parse_sequence`. Every turn of its loops consumes a character, so the
length of the source bounds them. -/
def parseSequenceM (options : ParseOptions m) (source : PyStr) (spec : ToolWireSpec)
    (plan : CompiledToolWirePlan) : m (WireToolSequence × Nat) := do
  let cursor := skipStructuralWs source 0
  let cursor ← liftEngine
    (expectLiteral source cursor spec.toolOpen.text "tool_open_malformed")
  parseCalls options spec plan source (source.length + 1) [] cursor

end Sequence

/-- The options of a call without keyword arguments but `eos=True`. -/
def eosOptions : ParseOptions EngineResult where
  eos := true
  allowTrailing := false
  compatibilityRawBoundaries := false
  argumentVariantResolver := none
  rawCloseCandidateAcceptor := none
  rawFullCloseSemanticAcceptor := none

def parseSequence (source : PyStr) (spec : ToolWireSpec) (plan : CompiledToolWirePlan) :
    EngineResult (WireToolSequence × Nat) :=
  parseSequenceM eosOptions source spec plan

/-! ## Membership -/

/-- Position of a name in an order, counted from one; zero for other names. -/
def orderPosition (order : List PyStr) (name : PyStr) : Nat :=
  match order.reverse.findIdx? (· = name) with
  | none => 0
  | some distance => order.length - distance

def sortByOrder (order names : List PyStr) : List PyStr :=
  names.insertionSort fun left right => orderPosition order left ≤ orderPosition order right

def issue (code : String) (message : Message) : EngineIssue := ⟨code, message, none⟩

def occurrenceIssues (arguments : List ArgumentBranchPlan)
    (occurrence : WireArgumentOccurrence) : List EngineIssue :=
  match (arguments.find? (·.name = occurrence.name)).filter (·.generated) with
  | none =>
      [issue "plan_argument_not_generated" [.text "decoded argument ",
        .repr occurrence.name, .text " is not a generated compiled branch"]]
  | some argument =>
      (if occurrence.framingVariantId ≠ argument.framingVariantId then
        [issue "plan_argument_framing_mismatch" [.text "decoded argument ",
          .repr occurrence.name, .text " contradicts compiled framing"]]
      else []) ++
      (match argument.admittedWirePayloads with
      | none => []
      | some payloads =>
          let admitted :=
            match parseJsonStrict occurrence.canonicalValueJson with
            | some (.str value) => payloads.contains value
            | _ => false
          if admitted then []
          else
            [issue "plan_finite_value_mismatch" [.text "decoded argument ",
              .repr occurrence.name, .text " is outside the compiled finite language"]])

def callIssues (spec : ToolWireSpec) (plan : CompiledToolWirePlan) (call : WireToolCall) :
    List EngineIssue :=
  match plan.tool call.name with
  | none =>
      [issue "plan_tool_not_selected" [.text "decoded Tool ", .repr call.name,
        .text " is not a selected compiled branch"]]
  | some branch =>
      if !branch.representable then
        [issue "plan_tool_not_generated" [.text "decoded Tool ", .repr call.name,
          .text " belongs to a non-generated compiled branch"]]
      else
        let names := call.occurrences.map WireArgumentOccurrence.name
        let occurrenceOrder :=
          if spec.ordering = .permutable then sortByOrder branch.orderPlan.firstOrder names
          else names
        (if !branch.orderPlan.accepts occurrenceOrder then
          [issue "plan_argument_order_mismatch" [.text "decoded arguments for Tool ",
            .repr call.name, .text " are outside the selected order language"]]
        else []) ++
        call.occurrences.flatMap (occurrenceIssues branch.arguments)

def validateDecodedSequenceMembership (spec : ToolWireSpec) (plan : CompiledToolWirePlan)
    (sequence : WireToolSequence) : List EngineIssue :=
  (if !plan.allowParallel ∧ 1 < sequence.calls.length then
    [issue "plan_parallel_mismatch"
      (plain "decoded Tool sequence exceeds the compiled non-parallel language")]
  else []) ++
  (if plan.maxCallsPerSequence.any (· < sequence.calls.length) then
    [issue "plan_call_limit_exceeded"
      (plain "decoded Tool sequence exceeds the compiled generation call limit")]
  else []) ++
  sequence.calls.flatMap (callIssues spec plan)

end ExQServe.ToolWire
