import ExQServe.ToolWire.Engine
import ExQServe.ToolWire.QwenSpec
import ExQServe.Foundation.Stream

/-! # Production Tool-wire session

The model of `ProductionToolWireSession`. The lists of parts that the session
only ever joins are kept joined. -/

namespace ExQServe.ToolWire

open ExQServe.Search ExQServe.Stream

structure ProductionToolWireResult where
  status : EngineStatus
  sequence : Option WireToolSequence
  issues : List EngineIssue
  consumedChars : Nat
  remainder : PyStr
  rawRegion : PyStr
  completedEnvelopes : Nat
  awaitingNextEnvelope : Bool
deriving DecidableEq

structure SessionConfig where
  spec : ToolWireSpec
  plan : CompiledToolWirePlan
  completedCallOffset : Nat
  validateMembership : Bool
  ownPlan : plan.specFingerprint = spec

abbrev QwenProductionPlan :=
  { plan : CompiledToolWirePlan // plan.specFingerprint = qwenProductionToolWireSpec }

def qwenSessionConfig (plan : QwenProductionPlan) (completedCallOffset : Nat)
    (validateMembership : Bool) : SessionConfig where
  spec := qwenProductionToolWireSpec
  plan := plan.val
  completedCallOffset := completedCallOffset
  validateMembership := validateMembership
  ownPlan := plan.property

namespace SessionConfig

def argumentOpenPrefixes (config : SessionConfig) : List PyStr :=
  (config.spec.argumentFramings.map (·.argumentOpen.prefixText)).eraseDups

def parameterCloseForms (config : SessionConfig) : List PyStr :=
  (config.spec.argumentFramings.flatMap (·.argumentClose.texts)).eraseDups

def toolCloseForms (config : SessionConfig) : List PyStr := config.spec.toolClose.texts

def tokens (config : SessionConfig) (insideParameter : Bool) : List PyStr :=
  if insideParameter then config.parameterCloseForms
  else config.argumentOpenPrefixes ++ config.toolCloseForms

theorem tokens_ne_nil {config : SessionConfig} {insideParameter : Bool} {token : PyStr}
    (member : token ∈ config.tokens insideParameter) : token ≠ [] := by
  cases insideParameter with
  | true =>
      rcases List.mem_flatMap.mp (List.mem_eraseDups.mp member) with ⟨variant, _, member⟩
      exact variant.argumentClose.text_ne_nil member
  | false =>
      rcases List.mem_append.mp member with member | member
      · rcases List.mem_map.mp (List.mem_eraseDups.mp member) with ⟨variant, _, rfl⟩
        exact variant.argumentOpen.prefixNonempty
      · exact config.spec.toolClose.text_ne_nil member

end SessionConfig

inductive SessionState
  | envelope
  | between
  | tail
  | error
deriving DecidableEq, Repr

structure ProductionToolWireSession where
  ownedPrefixChars : Nat
  region : PyStr
  envelope : PyStr
  scanTail : PyStr
  between : PyStr
  betweenWs : PyStr
  betweenWsInvalid : Bool
  remainder : PyStr
  insideParameter : Bool
  state : SessionState
  calls : List WireToolCall
  finished : Bool
  finalResult : Option ProductionToolWireResult

namespace ProductionToolWireSession

def fresh : ProductionToolWireSession where
  ownedPrefixChars := 0
  region := []
  envelope := []
  scanTail := []
  between := []
  betweenWs := []
  betweenWsInvalid := false
  remainder := []
  insideParameter := false
  state := .envelope
  calls := []
  finished := false
  finalResult := none

def safePrefixLength (source : PyStr) (tokens : List PyStr) : Nat :=
  source.length - keepLength tokens

def appendEnvelope (session : ProductionToolWireSession) (text : PyStr) :
    ProductionToolWireSession :=
  { session with
    envelope := session.envelope ++ text
    ownedPrefixChars := session.ownedPrefixChars + text.length }

def betweenSource (session : ProductionToolWireSession) : PyStr :=
  if session.betweenWsInvalid then session.remainder ++ session.between
  else session.betweenWs ++ session.between

def diagnosticSource (session : ProductionToolWireSession) : PyStr :=
  let owned := session.region ++ session.envelope ++ session.scanTail
  if session.state = .between then owned ++ session.betweenSource
  else owned ++ session.remainder

def errorResult (session : ProductionToolWireSession) (status : EngineStatus)
    (code : String) (message : Message) (offset : Nat) : ProductionToolWireSession :=
  let source := session.diagnosticSource
  { session with
    state := .error
    finalResult := some
      { status
        sequence := none
        issues := [⟨code, message, some offset⟩]
        consumedChars := min offset source.length
        remainder := []
        rawRegion := source
        completedEnvelopes := session.calls.length
        awaitingNextEnvelope := false } }

def atCallLimit (config : SessionConfig) (accepted : Nat) : Bool :=
  config.plan.maxCallsPerSequence.any (· ≤ config.completedCallOffset + accepted)

def sequenceLimitExceeded : String := "tool_sequence_limit_exceeded"

def sequenceLimitMessage : Message :=
  plain "Tool sequence exceeds the compiled generation call limit"

def decodeEnvelope (config : SessionConfig) (envelope : PyStr) :
    EngineResult WireToolCall := do
  let (sequence, consumed) ← parseSequence envelope config.spec config.plan
  if consumed ≠ envelope.length then
    .error (.malformed "tool_envelope_trailing_wire"
      (plain "completed Tool envelope contains trailing wire") consumed)
  else
    match sequence.calls with
    | [call] =>
        if config.validateMembership then
          match validateDecodedSequenceMembership config.spec config.plan sequence with
          | [] => .ok call
          | issue :: _ => .error (.malformed issue.code issue.message 0)
        else .ok call
    | _ =>
        .error (.malformed "tool_envelope_cardinality"
          (plain "production Qwen Tool envelope must contain exactly one function call") 0)

def parseCompletedEnvelope (config : SessionConfig) (session : ProductionToolWireSession) :
    EngineResult ProductionToolWireSession :=
  let base := session.region.length
  if atCallLimit config session.calls.length then
    .ok (session.errorResult .malformed sequenceLimitExceeded sequenceLimitMessage base)
  else
    match decodeEnvelope config session.envelope with
    | .ok call =>
        .ok { session with
          calls := session.calls ++ [{ call with index := session.calls.length }]
          region := session.region ++ session.envelope
          envelope := []
          state := .between }
    | .error .needMore =>
        .ok (session.errorResult .incomplete "incomplete_wire"
          (plain "Tool envelope ended before its declared structure was complete")
          (base + session.envelope.length))
    | .error (.malformed code message offset) =>
        .ok (session.errorResult .malformed code message (base + offset))
    | .error failure => .error failure

/-- What a token means for the envelope that ends with it; `rest` follows. -/
def tokenStep (config : SessionConfig) (session : ProductionToolWireSession)
    (token rest : PyStr) :
    EngineResult ((ProductionToolWireSession × PyStr) ⊕ (ProductionToolWireSession × PyStr)) :=
  if session.insideParameter then
    .ok (.inl ({ session with insideParameter := false }, rest))
  else if config.argumentOpenPrefixes.contains token then
    .ok (.inl ({ session with insideParameter := true }, rest))
  else do
    let parsed ← parseCompletedEnvelope config session
    .ok (.inr (parsed, if parsed.state = .error then [] else rest))

/-- One turn of the framing scanner. It returns with the text after the envelope,
or without text when the envelope goes on or has failed. -/
def envelopeStep (config : SessionConfig) :
    ProductionToolWireSession × PyStr →
      EngineResult ((ProductionToolWireSession × PyStr) ⊕ (ProductionToolWireSession × PyStr))
  | (session, source) =>
      if source = [] then .ok (.inr (session, []))
      else
        let tokens := config.tokens session.insideParameter
        match firstToken source tokens with
        | none =>
            let safe := safePrefixLength source tokens
            .ok (.inr ({ session.appendEnvelope (source.take safe) with
              scanTail := source.drop safe }, []))
        | some (position, token) =>
            let stop := position + token.length
            tokenStep config (session.appendEnvelope (source.take stop)) token
              (source.drop stop)

section EnvelopeStep

variable {config : SessionConfig} {session : ProductionToolWireSession} {source : PyStr}

theorem envelopeStep_nil : envelopeStep config (session, []) = .ok (.inr (session, [])) := rfl

theorem envelopeStep_of_none (nonempty : source ≠ [])
    (missing : firstToken source (config.tokens session.insideParameter) = none) :
    envelopeStep config (session, source) =
      .ok (.inr ({ session.appendEnvelope (source.take
          (safePrefixLength source (config.tokens session.insideParameter))) with
        scanTail := source.drop
          (safePrefixLength source (config.tokens session.insideParameter)) }, [])) := by
  simp only [envelopeStep, if_neg nonempty, missing]

theorem envelopeStep_of_some (nonempty : source ≠ []) {position : Nat} {token : PyStr}
    (found : firstToken source (config.tokens session.insideParameter) =
      some (position, token)) :
    envelopeStep config (session, source) =
      tokenStep config (session.appendEnvelope (source.take (position + token.length))) token
        (source.drop (position + token.length)) := by
  simp only [envelopeStep, if_neg nonempty, found]

/-- A token found in the source ends inside it. -/
theorem firstToken_bounds {insideParameter : Bool} {token : PyStr} {position : Nat}
    (found : firstToken source (config.tokens insideParameter) = some (position, token)) :
    token ∈ config.tokens insideParameter ∧ Occurs token source position ∧
      0 < token.length ∧ position + token.length ≤ source.length := by
  have isFirst := (firstToken_eq_some_iff fun token => config.tokens_ne_nil).mp found
  have nonempty := config.tokens_ne_nil isFirst.member
  exact ⟨isFirst.member, isFirst.occurs, List.length_pos_iff.mpr nonempty,
    isFirst.occurs.end_le nonempty⟩

theorem tokenStep_rest {token rest : PyStr} {next : ProductionToolWireSession × PyStr}
    (stepped : tokenStep config session token rest = .ok (.inl next)) : next.2 = rest := by
  unfold tokenStep at stepped
  split at stepped
  · cases stepped
    rfl
  · split at stepped
    · cases stepped
      rfl
    · cases parsed : parseCompletedEnvelope config session <;>
        simp [parsed, bind, Except.bind] at stepped

theorem envelopeStep_decreases (config : SessionConfig) :
    Decreases (fun turn : ProductionToolWireSession × PyStr => turn.2.length)
      (envelopeStep config) where
  less := by
    rintro ⟨session, source⟩ next stepped
    by_cases empty : source = []
    · subst empty
      cases stepped
    · cases found : firstToken source (config.tokens session.insideParameter) with
      | none =>
          rw [envelopeStep_of_none empty found] at stepped
          cases stepped
      | some match_ =>
          have bounds := firstToken_bounds found
          rw [envelopeStep_of_some empty found] at stepped
          change next.2.length < source.length
          rw [tokenStep_rest stepped, List.length_drop]
          omega

end EnvelopeStep

def scanEnvelope (config : SessionConfig) :
    ProductionToolWireSession × PyStr → EngineResult (ProductionToolWireSession × PyStr) :=
  whileLoop .fuelExhausted (fun turn => turn.2.length) (envelopeStep config)

def consumeEnvelope (config : SessionConfig) (session : ProductionToolWireSession)
    (incoming : PyStr) : EngineResult (ProductionToolWireSession × PyStr) :=
  scanEnvelope config ({ session with scanTail := [] }, session.scanTail ++ incoming)

/-- Whitespace between envelopes is held while it is structural and short. -/
def holdWhitespace (session : ProductionToolWireSession) (whitespace : PyStr) :
    ProductionToolWireSession :=
  if whitespace = [] then session
  else if session.betweenWsInvalid then
    { session with remainder := session.remainder ++ whitespace }
  else
    let candidate := session.betweenWs ++ whitespace
    if candidate.length ≤ structuralWsMax ∧ candidate.all isStructuralWs then
      { session with betweenWs := candidate }
    else
      { session with
        remainder := session.remainder ++ candidate
        betweenWs := []
        betweenWsInvalid := true }

/-- An adjacent Tool opener: start its envelope, or enter the error state. -/
def openAdjacent (config : SessionConfig) (session : ProductionToolWireSession)
    (opened : PyStr) : ProductionToolWireSession × PyStr :=
  let refused := { session with between := config.spec.toolOpen.text }
  let whitespaceChars := session.betweenWs.length
  if session.betweenWsInvalid then
    (refused.errorResult .malformed "structural_whitespace_invalid"
      (plain ("adjacent Tool envelope is preceded by whitespace outside the " ++
        "compiled language")) session.ownedPrefixChars, [])
  else if session.calls ≠ [] ∧ !config.plan.allowParallel then
    (refused.errorResult .malformed "adjacent_tool_not_allowed"
      (plain "compiled Tool policy does not allow an adjacent Tool envelope")
      (session.ownedPrefixChars + whitespaceChars), [])
  else if atCallLimit config session.calls.length then
    (refused.errorResult .malformed sequenceLimitExceeded sequenceLimitMessage
      (session.ownedPrefixChars + whitespaceChars), [])
  else
    ({ session with
      region := session.region ++ session.betweenWs
      ownedPrefixChars := session.ownedPrefixChars + whitespaceChars
      betweenWs := []
      betweenWsInvalid := false
      state := .envelope }, opened)

/-- What follows the whitespace: an opener, a part of one, or other text. -/
def settleBetween (config : SessionConfig) (held : ProductionToolWireSession)
    (remainder : PyStr) : ProductionToolWireSession × PyStr :=
  let toolOpen := config.spec.toolOpen.text
  if remainder = [] then (held, [])
  else if toolOpen <+: remainder then openAdjacent config held remainder
  else if remainder <+: toolOpen then ({ held with between := remainder }, [])
  else
    ({ held with
      state := .tail
      betweenWs := []
      betweenWsInvalid := false
      remainder := held.remainder ++
        (if held.betweenWsInvalid then [] else held.betweenWs) ++ remainder }, [])

def consumeBetween (config : SessionConfig) (session : ProductionToolWireSession)
    (incoming : PyStr) : ProductionToolWireSession × PyStr :=
  let source := session.between ++ incoming
  settleBetween config
    ({ session with between := [] }.holdWhitespace (source.takeWhile PyChar.isSpace))
    (source.dropWhile PyChar.isSpace)

def completeResult (session : ProductionToolWireSession) (remainder : Option PyStr) :
    ProductionToolWireSession × ProductionToolWireResult :=
  if session.calls = [] then
    let failed := session.errorResult .malformed "tool_sequence_empty"
      (plain "Tool region contains no complete Tool envelope") 0
    (failed, failed.finalResult.getD
      ⟨.malformed, none, [], 0, [], [], 0, false⟩)
  else
    (session,
      { status := .complete
        sequence := some ⟨session.calls⟩
        issues := []
        consumedChars := session.region.length
        remainder := remainder.getD session.remainder
        rawRegion := session.region
        completedEnvelopes := session.calls.length
        awaitingNextEnvelope := false })

def progressResult (session : ProductionToolWireSession) :
    ProductionToolWireSession × ProductionToolWireResult :=
  if session.state = .tail then session.completeResult none
  else
    (session,
      { status := .inProgress
        sequence := none
        issues := []
        consumedChars := session.ownedPrefixChars + session.scanTail.length
        remainder := []
        rawRegion := []
        completedEnvelopes := session.calls.length
        awaitingNextEnvelope := decide (session.state = .between) })

/-- One turn of the loop of `feed`. -/
def feedStep (config : SessionConfig) :
    ProductionToolWireSession × PyStr →
      EngineResult ((ProductionToolWireSession × PyStr) ⊕ ProductionToolWireSession)
  | (session, pending) =>
      if pending = [] then .ok (.inr session)
      else
        match session.state with
        | .error => .ok (.inr session)
        | .tail => .ok (.inr { session with remainder := session.remainder ++ pending })
        | .envelope => do
            let consumed ← consumeEnvelope config session pending
            .ok (.inl consumed)
        | .between => .ok (.inl (consumeBetween config session pending))

def pendingRank (state : SessionState) (pending : PyStr) : Nat :=
  if pending = [] then 0 else if state = .between then 2 else 1

/-- Every turn consumes text, or moves on without any. -/
def feedMeasure : ProductionToolWireSession × PyStr → Nat
  | (session, pending) =>
      3 * (session.scanTail.length + session.between.length + pending.length) +
        pendingRank session.state pending

def consume (config : SessionConfig) (session : ProductionToolWireSession) (chunk : PyStr) :
    EngineResult ProductionToolWireSession :=
  whileLoop .fuelExhausted feedMeasure (feedStep config) (session, chunk)

def feed (config : SessionConfig) (session : ProductionToolWireSession) (chunk : PyStr) :
    EngineResult (ProductionToolWireSession × ProductionToolWireResult) := do
  match session.finalResult with
  | some result => .ok (session, result)
  | none =>
      if chunk = [] then .ok session.progressResult
      else
        let consumed ← consume config session chunk
        match consumed.finalResult with
        | some result => .ok (consumed, result)
        | none => .ok consumed.progressResult

def incompleteResult (session : ProductionToolWireSession) (literal : String) :
    ProductionToolWireResult :=
  let diagnostic := session.diagnosticSource
  { status := .incomplete
    sequence := none
    issues := [⟨"incomplete_wire", plain literal, some diagnostic.length⟩]
    consumedChars := diagnostic.length
    remainder := []
    rawRegion := diagnostic
    completedEnvelopes := session.calls.length
    awaitingNextEnvelope := false }

def terminalResult (config : SessionConfig) (session : ProductionToolWireSession) :
    ProductionToolWireSession × ProductionToolWireResult :=
  match session.state with
  | .tail => session.completeResult none
  | .envelope =>
      (session, session.incompleteResult
        "Tool-wire input ended before the structural sequence was complete")
  | .between | .error =>
      if !session.betweenWsInvalid ∧ session.between ≠ [] ∧
          session.between <+: config.spec.toolOpen.text then
        (session, session.incompleteResult
          "Tool-wire input ended during a possible adjacent Tool opener")
      else session.completeResult (some session.betweenSource)

def finish (config : SessionConfig) (session : ProductionToolWireSession) :
    ProductionToolWireSession × ProductionToolWireResult :=
  match session.finalResult with
  | some result => (session, result)
  | none =>
      let (closed, result) := terminalResult config { session with finished := true }
      ({ closed with finalResult := some result }, result)

def feedChunks (config : SessionConfig) (session : ProductionToolWireSession) :
    List PyStr → EngineResult (ProductionToolWireSession × List ProductionToolWireResult)
  | [] => .ok (session, [])
  | chunk :: chunks => do
      let (fed, result) ← feed config session chunk
      let (last, results) ← feedChunks config fed chunks
      .ok (last, result :: results)

def run (config : SessionConfig) (chunks : List PyStr) :
    EngineResult ProductionToolWireResult := do
  let (session, _) ← feedChunks config fresh chunks
  .ok (finish config session).2

end ProductionToolWireSession

end ExQServe.ToolWire
