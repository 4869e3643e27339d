import ExQServe.ToolWire.PlanTools

/-! # The plan compiler

The model of `compile_tool_wire_plan` in `tool_wire/compiler.py`, without the type checks of
its arguments. -/

namespace ExQServe.ToolWire

/-! ## Optional arguments -/

section Optional

variable {π : Type} (libraries : PlanLibraries π) (spec : ToolWireSpec)
  (capabilities : ConstraintCompilerCapabilities)

/-- What an attempt to compile the optional arguments of a tool leaves behind: its cost
with the candidates, if they were all generated, and the state it has changed. -/
structure OptionalAttempt where
  outcome : Option (ProductCost × Dict PyStr ArgumentBranchPlan)
  prepared : PreparedTool
  envelope : HardEnvelopeBudget

def CompileFailure.exceedsBudget : CompileFailure → Bool
  | .branchBudgetExceeded | .hardComplexityExceeded => true
  | _ => false

structure CandidateLoop where
  prepared : PreparedTool
  envelope : HardEnvelopeBudget
  wireBytes : Nat
  semanticBytes : Nat
  candidates : Dict PyStr ArgumentBranchPlan

/-- The loop over the optional names; `none` beside the state it was given up in. -/
def compileCandidates (mode : ToolConstraintMode) (wirePayloadLimit : Int) :
    CandidateLoop → List (PyStr × Nat) → Except CompileFailure (Bool × CandidateLoop)
  | loop, [] => .ok (true, loop)
  | loop, (name, index) :: names =>
      match resolvedPreparedPropertySchema libraries loop.prepared name loop.envelope with
      | .error failure => if failure.exceedsBudget then .ok (false, loop) else .error failure
      | .ok (schema, prepared, envelope) =>
          match compileArgument libraries spec capabilities name schema false false index mode
              (wirePayloadLimit - loop.wireBytes) false with
          | .error failure =>
              if failure.exceedsBudget then .ok (false, { loop with prepared, envelope })
              else .error failure
          | .ok candidate =>
              if !candidate.generated then .ok (false, { loop with prepared, envelope })
              else do
                let payloadBytes ← finiteWirePayloadBytes candidate
                let productBytes ← argumentSemanticProductBytes candidate
                compileCandidates mode wirePayloadLimit
                  { prepared
                    envelope
                    wireBytes := loop.wireBytes + payloadBytes
                    semanticBytes := loop.semanticBytes + productBytes
                    candidates := loop.candidates.set name candidate } names

def finishAttempt (semantics : CompiledToolSemantics) (loop : CandidateLoop) :
    Except CompileFailure OptionalAttempt := do
  let full ← semanticSchemaProductCost loop.prepared loop.prepared.propertyNames
  let minimal ← semanticSchemaProductCost loop.prepared semantics.wireRequiredNames
  let delta ← full.sub minimal
  return ⟨some (⟨delta.estimatedRules, loop.semanticBytes, delta.workUnits⟩, loop.candidates),
    loop.prepared, loop.envelope⟩

def compileOptionalArgumentCandidates (semantics : CompiledToolSemantics)
    (wirePayloadLimit : Int) (envelope : HardEnvelopeBudget) :
    Except CompileFailure OptionalAttempt :=
  if wirePayloadLimit < 0 then .ok ⟨none, semantics.prepared, envelope⟩
  else do
    let optional := semantics.prepared.orderEvidence.zipIdx.filter fun entry =>
      !semantics.wireRequiredNames.contains entry.1
    let (whole, loop) ← compileCandidates libraries spec capabilities semantics.mode
      wirePayloadLimit ⟨semantics.prepared, envelope, 0, 0, .empty⟩ optional
    if whole && loop.candidates.size == optional.length then finishAttempt semantics loop
    else return ⟨none, loop.prepared, loop.envelope⟩

end Optional

/-! ## The compilation -/

section Compilation

variable {π : Type} (libraries : PlanLibraries π) (request : PlanRequest)

def checkTriggers (declared : List String) : List String → List String → Except CompileFailure Unit
  | _, [] => .ok ()
  | seen, trigger :: triggers => do
      demand (declared.contains trigger) (.toolWireCompileError
        (plain ("activation trigger is not declared by static ToolWireSpec: " ++ trigger)))
      demand (!seen.contains trigger)
        (.toolWireCompileError (plain "activation trigger ids must be unique"))
      checkTriggers declared (trigger :: seen) triggers

def activationIds (constraintEnabled : Bool) : Except CompileFailure (Option (List String)) :=
  if !constraintEnabled then
    if request.constraintFingerprint.isSome || request.activationTriggerIds.isSome then
      .error (.toolWireCompileError (plain ("OFF Tool-wire plans / validation-only branches " ++
        "cannot claim a constraint activation")))
    else .ok none
  else do
    demand (libraries.constraintArtifacts.isSome ||
        request.constraintFingerprint.any fun fingerprint => !fingerprint.isEmpty)
      (.toolWireCompileError (plain "constrained Tool-wire plan requires a constraint fingerprint"))
    match request.activationTriggerIds with
    | none | some [] =>
        .error (.toolWireCompileError
          (plain "constrained Tool-wire plan requires activation trigger ids"))
    | some triggers => do
        let declared := request.spec.activationTriggers.map ActivationTriggerSpec.triggerId
        demand (decide (triggers.length ≤ request.spec.activationTriggers.length))
          (.toolWireCompileError (plain "activation trigger ids must be unique and declared"))
        checkTriggers declared [] triggers
        return some triggers

def effectiveModeFor (toolName : PyStr) : Except CompileFailure ToolConstraintMode :=
  match request.effectiveToolModes with
  | none => .ok request.mode
  | some modes =>
      match modes.get? toolName with
      | some mode => .ok mode
      | none => .error (.raised [.repr toolName])

/-- The admission of one tool before its schema is charged: its order evidence, its source
characters with those of the tools before it, and its source bytes. -/
def admitTool (tool : ExposedTool) (exposedCount aggregateSourceChars : Nat) :
    Except CompileFailure (List PyStr × Nat × Nat) := do
  let source := tool.parameters.canonicalJson
  demand (decide (tool.name.length ≤ hardMaxNameChars)) .hardComplexityExceeded
  demand (decide (source.length ≤ hardMaxSchemaSourceCharsPerTool)) .hardComplexityExceeded
  let nameBytes ← utf8LenOrHardReject tool.name
  let sourceBytes ← utf8LenOrHardReject source
  let aggregate := aggregateSourceChars + source.length
  demand (decide (aggregate ≤ hardMaxSchemaSourceCharsTotal)) .hardComplexityExceeded
  match request.presentationOrders.get? tool.name with
  | none =>
      if request.presentationOrders.size = exposedCount then
        .error (.toolWireCompileError (plain "presentation order supplied for non-exposed tool"))
      else
        .error (toolMessage "presentation order evidence is required for exposed tool " tool "")
  | some orderEvidence =>
      demand (decide (orderEvidence.length ≤ hardMaxObjectProperties)) .hardComplexityExceeded
      checkNames orderEvidence
      return (orderEvidence, aggregate, nameBytes + sourceBytes)

def prepareTools (exposedCount : Nat) : Nat → HardEnvelopeBudget → List ExposedTool →
    Stage (List PreparedTool × HardEnvelopeBudget)
  | _, envelope, [] => pure ([], envelope)
  | aggregate, envelope, tool :: tools => do
      let (orderEvidence, aggregate, sourceBytes) ←
        uncharged (admitTool request tool exposedCount aggregate)
      chargeBytes sourceBytes
      let schema := tool.parameters.document
      let envelope ← uncharged do
        envelope.consumeSchemaNodes
          (← validateSchemaHardEnvelope envelope.remainingSchemaNodes schema)
      let prepared ← uncharged (prepareToolForCompile request.spec tool schema orderEvidence)
      let cost ← uncharged <| semanticSchemaProductCost prepared <|
        if request.spec.occurrence.optionalOmission then prepared.requiredNames
        else prepared.propertyNames
      reserve cost 0
      let (tools, envelope) ← prepareTools exposedCount aggregate envelope tools
      pure (prepared :: tools, envelope)

def compileSemantics : HardEnvelopeBudget → List PreparedTool →
    Stage (List CompiledToolSemantics × HardEnvelopeBudget)
  | envelope, [] => pure ([], envelope)
  | envelope, prepared :: tools => do
      let name := prepared.tool.name
      let mode ← uncharged (effectiveModeFor request name)
      let (semantics, envelope) ← compileToolSemantics libraries request.spec
        request.compilerCapabilities prepared mode envelope
        ((request.allowFormatFallbackTools.getD []).contains name)
      let (others, envelope) ← compileSemantics envelope tools
      pure (semantics :: others, envelope)

/-- Stage B: every exposed tool admitted, then the minimal language compiled. -/
def minimalSemantics (exposed : List ExposedTool) :
    Stage (List CompiledToolSemantics × HardEnvelopeBudget) := do
  let (prepared, envelope) ←
    prepareTools request exposed.length 0 HardEnvelopeBudget.initial exposed
  compileSemantics libraries request envelope prepared

def buildArtifactCandidate (triggers : List String) (tools : List ToolBranchPlan) :
    Except CompileFailure (Option (ConstraintArtifactCandidate π)) :=
  match libraries.constraintArtifacts with
  | none => .ok none
  | some artifacts =>
      if compileDisposition tools true = .constrainedExecutable then
        (artifacts.builder request.spec tools triggers).map some
      else .ok none

structure Enrichment (π : Type) where
  envelope : HardEnvelopeBudget
  semantics : List CompiledToolSemantics
  selectedTools : List ToolBranchPlan
  selectedArtifact : Option (ConstraintArtifactCandidate π)
  selectedOptionalSemanticCosts : List ProductCost

inductive EnrichmentAttempt
  | skipped
  | refused (schemaNodes : Nat)
  | selected (schemaNodes : Nat)
deriving DecidableEq, Repr

def PreparedTool.restoreCaches (prepared base : PreparedTool) : PreparedTool :=
  { prepared with
    resolvedPropertySchemas := base.resolvedPropertySchemas
    propertyResolutionCache := base.propertyResolutionCache }

def CompiledToolSemantics.settle (semantics : CompiledToolSemantics) (prepared : PreparedTool) :
    CompiledToolSemantics :=
  { semantics with prepared, optionalArgumentCandidates := .empty }

def enrichTool (ledger : CompileBudgetLedger) (triggers : List String) (index : Nat)
    (semantics : CompiledToolSemantics) (state : Enrichment π) :
    Except CompileFailure (EnrichmentAttempt × Enrichment π) :=
  let prepared := semantics.prepared
  let order := prepareOrders prepared.orderEvidence semantics.wireRequiredNames
  if order.optional.isEmpty then .ok (.skipped, state)
  else do
    let selectedBytes ← toolFiniteWirePayloadBytes state.selectedTools
    let attempt ← compileOptionalArgumentCandidates libraries request.spec
      request.compilerCapabilities semantics
      ((hardMaxFiniteWirePayloadBytesTotal : Int) - selectedBytes) state.envelope
    let schemaNodes := attempt.envelope.schemaNodesUsed - state.envelope.schemaNodesUsed
    -- The `finally` block gives back the nodes and the caches of the attempt.
    let envelope := attempt.envelope.restoreSchemaNodes state.envelope
    let restored := attempt.prepared.restoreCaches prepared
    let refused : Enrichment π :=
      { state with envelope, semantics := state.semantics.set index (semantics.settle restored) }
    match attempt.outcome with
    | none => return (.refused schemaNodes, refused)
    | some (cost, candidates) => do
        let branch ← materializeToolBranch
          { semantics with prepared := restored, optionalArgumentCandidates := candidates }
          (declaredOrderPlan prepared.orderEvidence semantics.wireRequiredNames
            request.spec.ordering)
        let tools := state.selectedTools.set index branch
        let payloadBytes ← toolFiniteWirePayloadBytes tools
        let orderCost ← orderProductCost tools
        let artifact ← buildArtifactCandidate libraries request triggers tools
        let costs := state.selectedOptionalSemanticCosts.set index cost
        if candidateProductsFit ledger orderCost artifact payloadBytes (ProductCost.sum costs) then
          let envelope ← envelope.consumeSchemaNodes schemaNodes
          return (.selected schemaNodes, {
            envelope
            semantics := state.semantics.set index
              (semantics.settle (restored.restoreCaches attempt.prepared))
            selectedTools := tools
            selectedArtifact := artifact
            selectedOptionalSemanticCosts := costs })
        else return (.refused schemaNodes, refused)

/-- The enrichment loop; the semantics of a tool change in its own turn only. -/
def enrichTools (ledger : CompileBudgetLedger) (triggers : List String) :
    List (CompiledToolSemantics × Nat) → Enrichment π →
      Except CompileFailure (List EnrichmentAttempt × Enrichment π)
  | [], state => .ok ([], state)
  | (semantics, index) :: tools, state => do
      let (attempt, state) ← enrichTool libraries request ledger triggers index semantics state
      let (attempts, state) ← enrichTools ledger triggers tools state
      return (attempt :: attempts, state)

structure Selection (π : Type) where
  ledger : CompileBudgetLedger
  triggerIds : Option (List String)
  base : HardEnvelopeBudget
  attempts : List EnrichmentAttempt
  enriched : Enrichment π

inductive ProductSelection (π : Type)
  | rejected (ledger : CompileBudgetLedger)
  | selected (selection : Selection π)

def checkRequest (exposedNames : List PyStr) : Except CompileFailure Unit := do
  demand (!(libraries.constraintArtifacts.isSome && request.constraintFingerprint.isSome))
    (.raised (plain ("constraint_fingerprint must be produced by the artifact finalizer, " ++
      "not supplied twice")))
  match request.effectiveToolModes with
  | none => .ok ()
  | some modes =>
      demand (modes.keys.all (exposedNames.contains ·) && exposedNames.all (modes.keys.contains ·))
        (.toolWireCompileError
          (plain "effective_tool_modes must cover exactly the exposed Tool branches"))
  demand ((request.allowFormatFallbackTools.getD []).all (exposedNames.contains ·))
    (.toolWireCompileError (plain "format fallback may name only exposed Tool branches"))

def minimalTools (semantics : List CompiledToolSemantics) :
    Except CompileFailure (List ToolBranchPlan) :=
  semantics.mapM fun semantics =>
    materializeToolBranch semantics
      (minimalOrderPlan (prepareOrders semantics.prepared.orderEvidence semantics.wireRequiredNames)
        request.spec.ordering)

def selectFrom (ledger : CompileBudgetLedger) (triggerIds : Option (List String))
    (semantics : List CompiledToolSemantics) (envelope : HardEnvelopeBudget) :
    Except CompileFailure (ProductSelection π) := do
  let triggers := triggerIds.getD []
  let tools ← minimalTools request semantics
  let payloadBytes ← toolFiniteWirePayloadBytes tools
  let orderCost ← orderProductCost tools
  let artifact ← buildArtifactCandidate libraries request triggers tools
  if candidateProductsFit ledger orderCost artifact payloadBytes .zero then
    let (attempts, enriched) ← enrichTools libraries request ledger triggers semantics.zipIdx {
      envelope
      semantics
      selectedTools := tools
      selectedArtifact := artifact
      selectedOptionalSemanticCosts := semantics.map fun _ => .zero }
    return .selected { ledger, triggerIds, base := envelope, attempts, enriched }
  else return .rejected ledger

def selectWithin (exposed : List ExposedTool) (ledger : CompileBudgetLedger) :
    Except CompileFailure (ProductSelection π) := do
  let modes ← exposed.mapM fun tool => effectiveModeFor request tool.name
  let triggerIds ← activationIds libraries request (modes.any (· ≠ .off))
  demand (decide (request.presentationOrders.size ≤ exposed.length))
    (.toolWireCompileError (plain "presentation order supplied for non-exposed tool"))
  match minimalSemantics libraries request exposed ledger with
  | .error failure ledger =>
      if failure.exceedsBudget then .ok (.rejected ledger) else .error failure
  | .ok (semantics, envelope) ledger =>
      selectFrom libraries request ledger triggerIds semantics envelope

def selectProducts : Except CompileFailure (ProductSelection π) := do
  let exposed := exposedTools request.policy
  checkRequest libraries request (exposed.map ExposedTool.name)
  let ledger := CompileBudgetLedger.initial request.budget
  if hardMaxExposedTools < exposed.length then .ok (.rejected ledger)
  else
    match reserve ⟨1, request.spec.specId.utf8ByteSize, exposed.length⟩ 0 ledger with
    | .error _ ledger => .ok (.rejected ledger)
    | .ok _ ledger => selectWithin libraries request exposed ledger

/-! ### The last reservation -/

def finalCost (selection : Selection π) : Except CompileFailure OrderProductCost := do
  let enriched := selection.enriched
  let order ← orderProductCost enriched.selectedTools
  return {
    cost := ((ProductCost.sum enriched.selectedOptionalSemanticCosts).add order.cost).add
      (artifactCost enriched.selectedArtifact)
    permutations := order.permutations }

structure PlanCompilation where
  plan : CompiledToolWirePlan
  constraintMode : ToolConstraintMode
  compileBudget : CompileBudget
  budgetResult : CompileBudgetResult
  constraintFingerprint : Option PyStr
  activation : Option (List String)
deriving DecidableEq

def guaranteed (branch : ToolBranchPlan) : Bool :=
  branch.representable &&
    (decide (branch.guarantee = .format) || decide (branch.guarantee = .schema))

/-- The checks of the constructor of `CompiledToolWirePlan` on its disposition. -/
def checkDisposition (tools : List ToolBranchPlan) (disposition : PlanCompileDisposition)
    (result : CompileBudgetResult) (constraintFingerprint : Option PyStr)
    (activation : Option (List String)) : Except CompileFailure Unit :=
  if disposition = .constrainedExecutable then do
    demand result.withinBudget
      (.raised (plain "constrained-executable plans must be within compile budget"))
    demand (constraintFingerprint.isSome && activation.isSome)
      (.raised (plain "constrained-executable plans require constraint identity and activation"))
    demand (!tools.isEmpty)
      (.raised (plain "constrained-executable plans require at least one Tool branch"))
    demand (tools.any guaranteed)
      (.raised (plain "constrained-executable plans require a generated guaranteed Tool branch"))
    demand (tools.all fun branch =>
        !branch.strict || (branch.representable && decide (branch.guarantee = .schema)))
      (.raised (plain "strict Tool branches require a representable SCHEMA guarantee"))
    demand (tools.all fun branch =>
        branch.strict || decide (branch.guarantee = .none) || guaranteed branch)
      (.raised (plain "non-strict Tool branches must be validation-only or generated safely"))
  else
    demand (constraintFingerprint.isNone && activation.isNone)
      (.raised (plain ("non-constrained-executable plans cannot carry constraint identity " ++
        "or activation metadata")))

def buildPlan (tools : List ToolBranchPlan) (disposition : PlanCompileDisposition)
    (result : CompileBudgetResult) (constraintFingerprint : Option PyStr)
    (activation : Option (List String)) : Except CompileFailure PlanCompilation :=
  if unique : (tools.map ToolBranchPlan.toolName).Nodup then do
    checkDisposition tools disposition result constraintFingerprint activation
    return {
      plan := {
        specFingerprint := request.spec
        allowParallel := request.policy.allowParallel
        tools
        disposition
        maxCallsPerSequence := none
        maxCallsPositive := noLimit_positive
        toolNamesUnique := unique }
      constraintMode := request.mode
      compileBudget := request.budget
      budgetResult := result
      constraintFingerprint
      activation }
  else .error (.raised (plain "tool branch names must be unique"))

def rejectedBudgetPlan (ledger : CompileBudgetLedger) : Except CompileFailure PlanCompilation :=
  buildPlan request [] .rejected ledger.snapshot none none

def effectiveFingerprint (selection : Selection π) (disposition : PlanCompileDisposition) :
    Except CompileFailure (Option PyStr) :=
  if disposition = .constrainedExecutable then
    match libraries.constraintArtifacts with
    | none => .ok request.constraintFingerprint
    | some artifacts =>
        match selection.enriched.selectedArtifact with
        | none =>
            .error (.toolWireCompileError
              (plain "constrained artifact session is missing its selected candidate"))
        | some artifact => do
            let fingerprint ← artifacts.finalizer artifact
            demand (!fingerprint.isEmpty) (.toolWireCompileError
              (plain "constraint artifact finalizer must return one non-empty fingerprint"))
            return some fingerprint
  else .ok none

def finalizedCandidate (selection : Selection π) (disposition : PlanCompileDisposition) :
    Option (ConstraintArtifactCandidate π) :=
  if disposition = .constrainedExecutable ∧ libraries.constraintArtifacts.isSome = true then
    selection.enriched.selectedArtifact
  else none

/-- `compile_tool_wire_plan` from its last reservation on: the plan, and the candidate that
the finalizer was called with. -/
def finishPlan (selection : Selection π) :
    Except CompileFailure (PlanCompilation × Option (ConstraintArtifactCandidate π)) := do
  let tools := selection.enriched.selectedTools
  let final ← finalCost selection
  match reserve final.cost final.permutations selection.ledger with
  | .error _ ledger => return (← rejectedBudgetPlan request ledger, none)
  | .ok _ ledger =>
      let ledger :=
        if tools.any fun tool => tool.orderPlan.narrowed then ledger.markNarrowed else ledger
      let disposition := compileDisposition tools ledger.withinBudget
      let fingerprint ← effectiveFingerprint libraries request selection disposition
      let activation :=
        if disposition = .constrainedExecutable then selection.triggerIds else none
      let plan ← buildPlan request tools disposition ledger.snapshot fingerprint activation
      return (plan, finalizedCandidate libraries selection disposition)

def compileToolWirePlan :
    Except CompileFailure (PlanCompilation × Option (ConstraintArtifactCandidate π)) := do
  match ← selectProducts libraries request with
  | .rejected ledger => return (← rejectedBudgetPlan request ledger, none)
  | .selected selection => finishPlan libraries request selection

end Compilation

end ExQServe.ToolWire
