import ExQServe.ToolWire.Membership
import ExQServe.ToolWire.PlanBudgets

/-! # The tools of a plan

The model of what `tool_wire/compiler.py` makes of one tool. What `_compile_argument` and
`_object_schema_proof` decide about one schema is a parameter: the rules of the budget do
not depend on it. -/

namespace ExQServe.ToolWire

/-! ## The request -/

inductive ToolConstraintMode
  | off
  | format
  | schema
deriving DecidableEq, Repr

inductive SchemaSemanticAuthority
  | none
  | draft202012
deriving DecidableEq, Repr

structure ConstraintCompilerCapabilities where
  capabilityId : String
  supportedObjectKeywords : List PyStr
  supportedPropertyKeywords : List PyStr
  schemaSemanticAuthority : SchemaSemanticAuthority
  decoderSafeGenerationSchema : Bool
deriving DecidableEq

@[ext] structure ExposedTool where
  name : PyStr
  parameters : JsonSchema
  strict : Bool
  nameNonBlank : name.strip ≠ []

def exposeTool (tool : FunctionTool) : ExposedTool :=
  ⟨tool.name, tool.parameters, tool.strict, tool.nameNonBlank⟩

def exposedTools (policy : ToolPolicy) : List ExposedTool :=
  match policy.choice.mode with
  | .none => []
  | .named => (policy.tools.filter fun tool => policy.choice.name = some tool.name).map exposeTool
  | _ => policy.tools.map exposeTool

structure ArgumentProof where
  framingVariantId : Option String
  generated : Bool
  generationSchemaJson : Option PyStr
  valueMode : ConstraintValueMode
  admittedWirePayloads : Option (List PyStr)
  guarantee : GenerationGuarantee
  generationSchemaIff : generationSchemaJson.isSome = true ↔
    generated = true ∧ (valueMode = .structuredFormat ∨ valueMode = .structuredSchema)
  payloadsFinite : admittedWirePayloads.isSome = true → valueMode = .finiteValues
  guaranteeIff : generated = true ↔ guarantee = .format ∨ guarantee = .schema

/-- What the resolver of a property schema returns: its own argument, or another value. -/
inductive ResolvedProperty
  | same
  | detached (value : JsonValue)

structure ConstraintArtifactCandidate (π : Type) where
  cost : ProductCost
  payload : π

structure ConstraintArtifacts (π : Type) where
  builder : ToolWireSpec → List ToolBranchPlan → List String →
    Except CompileFailure (ConstraintArtifactCandidate π)
  finalizer : ConstraintArtifactCandidate π → Except CompileFailure PyStr

structure PlanLibraries (π : Type) where
  argumentProof : ToolWireSpec → ConstraintCompilerCapabilities → PyStr → JsonObject →
    ToolConstraintMode → Int → Bool → Except CompileFailure ArgumentProof
  objectSchemaProof : JsonObject → ConstraintCompilerCapabilities → PyStr → JsonObject → Bool
  propertySchemaResolver : Option (JsonObject → JsonObject → Nat → Nat →
    Except CompileFailure ResolvedProperty)
  constraintArtifacts : Option (ConstraintArtifacts π)

structure PlanRequest where
  spec : ToolWireSpec
  policy : ToolPolicy
  mode : ToolConstraintMode
  compilerCapabilities : ConstraintCompilerCapabilities
  presentationOrders : Dict PyStr (List PyStr)
  budget : CompileBudget
  constraintFingerprint : Option PyStr
  activationTriggerIds : Option (List String)
  effectiveToolModes : Option (Dict PyStr ToolConstraintMode)
  allowFormatFallbackTools : Option (List PyStr)

/-! ## Preparing a tool -/

structure PreparedTool where
  tool : ExposedTool
  schema : JsonObject
  orderEvidence : List PyStr
  propertySchemas : List (PyStr × JsonObject)
  resolvedPropertySchemas : Dict PyStr JsonObject
  propertyResolutionCache : Dict PyStr JsonObject
  requiredNames : List PyStr

namespace PreparedTool

def propertyNames (prepared : PreparedTool) : List PyStr := prepared.propertySchemas.map Prod.fst

def propertySchema (prepared : PreparedTool) (name : PyStr) : Option JsonObject :=
  (prepared.propertySchemas.find? (·.1 = name)).map Prod.snd

end PreparedTool

section Preparing

variable {π : Type} (libraries : PlanLibraries π)

def getOr (entries : JsonObject) (key : PyStr) (default : JsonValue) : JsonValue :=
  (entries.get? key).getD default

def toolMessage (before : String) (tool : ExposedTool) (after : String) : CompileFailure :=
  .toolWireCompileError [.text before, .repr tool.name, .text after]

def stringNames (values : List JsonValue) : Option (List PyStr) :=
  values.mapM fun value =>
    match value with
    | .str name => some name
    | _ => none

def objectSchemas (entries : JsonObject) : Option (List (PyStr × JsonObject)) :=
  entries.mapM fun entry =>
    match entry.2 with
    | .dict schema => some (entry.1, schema)
    | _ => none

def checkName (name : PyStr) : Except CompileFailure Unit := do
  demand (decide (name.length ≤ hardMaxNameChars)) .hardComplexityExceeded
  let _ ← utf8LenOrHardReject name

def checkNames : List PyStr → Except CompileFailure Unit
  | [] => .ok ()
  | name :: names => do
      checkName name
      checkNames names

def checkRequired (failure : CompileFailure) : List JsonValue → Except CompileFailure (List PyStr)
  | [] => .ok []
  | .str name :: values => do
      checkName name
      let names ← checkRequired failure values
      return name :: names
  | _ :: _ => .error failure

def firstMissing (names : List PyStr) : PyStr := (names.mergeSort Json.keyLe).headD []

def checkObjectType (tool : ExposedTool) (schema : JsonObject) : Except CompileFailure Unit :=
  match schema.get? (py "type") with
  | some (.str kind) =>
      demand (decide (kind = py "object"))
        (toolMessage "tool " tool " parameters must be an object schema")
  | _ => .error (toolMessage "tool " tool " parameters must be an object schema")

def declaredProperties (tool : ExposedTool) (schema : JsonObject) :
    Except CompileFailure JsonObject :=
  match getOr schema (py "properties") (.dict []) with
  | .dict properties => .ok properties
  | _ => .error (toolMessage "tool " tool " properties must map names to schemas")

def unnamedRequired (tool : ExposedTool) : CompileFailure :=
  toolMessage "tool " tool " required must contain property names"

def declaredRequired (tool : ExposedTool) (schema : JsonObject) :
    Except CompileFailure (List JsonValue) :=
  match getOr schema (py "required") (.list []) with
  | .list required => .ok required
  | _ => .error (unnamedRequired tool)

/-- The required names; without optional omission the presentation order is checked first. -/
def requiredNames (spec : ToolWireSpec) (tool : ExposedTool) (required : List JsonValue)
    (presentationOrder : List PyStr) : Except CompileFailure (List PyStr) :=
  if spec.occurrence.optionalOmission then checkRequired (unnamedRequired tool) required
  else do
    checkNames presentationOrder
    match stringNames required with
    | some names => .ok names
    | none => .error (unnamedRequired tool)

def propertySchemas (tool : ExposedTool) (properties : JsonObject) :
    Except CompileFailure (List (PyStr × JsonObject)) :=
  match objectSchemas properties with
  | some schemas => .ok schemas
  | none => .error (toolMessage "tool " tool " properties must map names to schemas")

def prepareToolForCompile (spec : ToolWireSpec) (tool : ExposedTool) (schema : JsonObject)
    (presentationOrder : List PyStr) : Except CompileFailure PreparedTool := do
  checkObjectType tool schema
  let properties ← declaredProperties tool schema
  let required ← declaredRequired tool schema
  demand (decide (max (max properties.length required.length) presentationOrder.length ≤
    hardMaxObjectProperties)) .hardComplexityExceeded
  let names ← requiredNames spec tool required presentationOrder
  demand (presentationOrder.all fun name => decide (name.length ≤ hardMaxNameChars))
    .hardComplexityExceeded
  let schemas ← propertySchemas tool properties
  let propertyNames := schemas.map Prod.fst
  demand (presentationOrder.all (propertyNames.contains ·) &&
      propertyNames.all (presentationOrder.contains ·) &&
      decide (presentationOrder.length = propertyNames.length))
    (toolMessage "presentation order for tool " tool
      " must contain each declared property exactly once")
  let missing := names.filter fun name => !propertyNames.contains name
  demand missing.isEmpty
    (.toolWireCompileError [.text "tool ", .repr tool.name,
      .text " required property has no schema: ", .repr (firstMissing missing)])
  return {
    tool
    schema
    orderEvidence := presentationOrder
    propertySchemas := schemas
    resolvedPropertySchemas := .empty
    propertyResolutionCache := .empty
    requiredNames := names }

def resolvedPreparedPropertySchema (prepared : PreparedTool) (name : PyStr)
    (envelope : HardEnvelopeBudget) :
    Except CompileFailure (JsonObject × PreparedTool × HardEnvelopeBudget) :=
  match prepared.resolvedPropertySchemas.get? name with
  | some existing => .ok (existing, prepared, envelope)
  | none =>
      match prepared.propertySchema name with
      | none => .error (.raised [.repr name])
      | some sourceProperty =>
          let keep (schema : JsonObject) (cache : Dict PyStr JsonObject) : PreparedTool :=
            { prepared with
              resolvedPropertySchemas := prepared.resolvedPropertySchemas.set name schema
              propertyResolutionCache := cache }
          match libraries.propertySchemaResolver with
          | none =>
              .ok (sourceProperty, keep sourceProperty prepared.propertyResolutionCache, envelope)
          | some resolver =>
              let cacheKey := canonicalJsonDumps (.dict sourceProperty)
              match prepared.propertyResolutionCache.get? cacheKey with
              | some cached =>
                  .ok (cached, keep cached prepared.propertyResolutionCache, envelope)
              | none => do
                  let remaining := envelope.remainingSchemaNodes
                  match ← resolver prepared.schema sourceProperty remaining hardMaxSchemaDepth with
                  | .same =>
                      return (sourceProperty, keep sourceProperty
                        (prepared.propertyResolutionCache.set cacheKey sourceProperty), envelope)
                  | .detached (.dict resolved) =>
                      let nodes ← validateSchemaHardEnvelope remaining resolved
                      let charged ← envelope.consumeSchemaNodes nodes
                      return (resolved, keep resolved
                        (prepared.propertyResolutionCache.set cacheKey resolved), charged)
                  | .detached _ =>
                      .error (.toolWireCompileError
                        (plain "property_schema_resolver must return a schema object"))

def excludedWork (prepared : PreparedTool) (included : List PyStr) : Nat :=
  ((prepared.propertySchemas.filter fun property => !included.contains property.1).map
    fun property => jsonNodeCount (.dict property.2)).sum

/-- `_semantic_schema_product_cost`, the bytes left at zero. -/
def semanticSchemaProductCost (prepared : PreparedTool) (included : List PyStr) :
    Except CompileFailure ProductCost := do
  demand (included.all (prepared.propertyNames.contains ·))
    (.raised (plain "semantic product names must be declared Tool properties"))
  let whole := jsonNodeCount (.dict prepared.schema)
  let excluded := excludedWork prepared included
  demand (decide (excluded ≤ whole)) (.raised (plain "semantic product costs must be non-negative"))
  return ⟨2 * included.dedup.length, 0, whole - excluded⟩

end Preparing

/-! ## Arguments -/

def finiteWirePayloadBytes (argument : ArgumentBranchPlan) : Except CompileFailure Nat :=
  (((argument.admittedWirePayloads.getD []).mapM utf8LenOrHardReject).map List.sum)

def argumentSemanticProductBytes (argument : ArgumentBranchPlan) : Except CompileFailure Nat :=
  if !argument.generated then .ok 0
  else do
    let schemaBytes ← match argument.generationSchemaJson with
      | some schema => utf8LenOrHardReject schema
      | none => .ok 0
    let payloadBytes ← finiteWirePayloadBytes argument
    return schemaBytes + payloadBytes

def schemaType (schema : JsonObject) : Option PyStr :=
  match schema.get? (py "type") with
  | some (.str kind) => some kind
  | _ => none

/-- `framing_selector.select` on the type of a schema. -/
def framingOf (selector : ArgumentFramingSelector) (schema : JsonObject) : Option String :=
  match schemaType schema with
  | none => none
  | some kind =>
      match selector.rules.filter fun rule => (rule.schemaTypes.map py).contains kind with
      | [rule] => some rule.variantId
      | _ => none

def branchArgument (name : PyStr) (required wireRequired : Bool) (schemaJson : PyStr)
    (presentationIndex : Nat) (proof : ArgumentProof) : Except CompileFailure ArgumentBranchPlan :=
  if named : name ≠ [] then
    if onWire : required = true → wireRequired = true then
      .ok {
        name
        required
        wireRequired
        generated := proof.generated
        schemaJson
        generationSchemaJson := proof.generationSchemaJson
        presentationIndex
        framingVariantId := proof.framingVariantId
        valueMode := proof.valueMode
        admittedWirePayloads := proof.admittedWirePayloads
        guarantee := proof.guarantee
        nameNonempty := named
        requiredOnWire := onWire
        generationSchemaIff := proof.generationSchemaIff
        payloadsFinite := proof.payloadsFinite
        guaranteeIff := proof.guaranteeIff }
    else .error (.raised (plain "schema-required arguments must also be wire-required"))
  else .error (.raised (plain "argument name must be non-empty"))

/-- `_unsupported_proof`, with the framing of the schema type. -/
def unsupportedProof (framingVariantId : Option String) : ArgumentProof where
  framingVariantId
  generated := false
  generationSchemaJson := none
  valueMode := .validationOnly
  admittedWirePayloads := none
  guarantee := .none
  generationSchemaIff := by simp
  payloadsFinite := by simp
  guaranteeIff := by simp

/-! ## The semantics of a tool -/

def guaranteeRank : GenerationGuarantee → Nat
  | .none | .unknown => 0
  | .format => 1
  | .schema => 2

def lowestGuarantee (first : GenerationGuarantee) (others : List GenerationGuarantee) :
    GenerationGuarantee :=
  others.foldl (fun lowest other =>
    if guaranteeRank other < guaranteeRank lowest then other else lowest) first

def toolGuarantee (arguments : List ArgumentBranchPlan) (mode : ToolConstraintMode)
    (objectSchemaSafe : Bool) : GenerationGuarantee :=
  if mode = .off then .none
  else if arguments.any fun argument => argument.wireRequired && !argument.generated then .none
  else
    match arguments.filter fun argument => argument.wireRequired || argument.generated with
    | [] => if mode = .schema ∧ objectSchemaSafe = true then .schema else .format
    | first :: others =>
        let guarantee := lowestGuarantee first.guarantee (others.map ArgumentBranchPlan.guarantee)
        if guarantee = .schema ∧ (mode = .format ∨ objectSchemaSafe = false) then .format
        else guarantee

structure CompiledToolSemantics where
  prepared : PreparedTool
  mode : ToolConstraintMode
  nameRepresentable : Bool
  objectSchemaSafe : Bool
  arguments : List ArgumentBranchPlan
  optionalArgumentCandidates : Dict PyStr ArgumentBranchPlan
  wireRequiredNames : List PyStr

section Semantics

variable {π : Type} (libraries : PlanLibraries π) (spec : ToolWireSpec)
  (capabilities : ConstraintCompilerCapabilities)

def wireRequired (spec : ToolWireSpec) (requiredNames : List PyStr) (name : PyStr) : Bool :=
  requiredNames.contains name || !spec.occurrence.optionalOmission

def resolveSchemas (prepared : PreparedTool) (envelope : HardEnvelopeBudget) : List PyStr →
    Except CompileFailure (List (PyStr × JsonObject) × PreparedTool × HardEnvelopeBudget)
  | [] => .ok ([], prepared, envelope)
  | name :: names => do
      let (schema, prepared, envelope) ←
        resolvedPreparedPropertySchema libraries prepared name envelope
      let (schemas, prepared, envelope) ← resolveSchemas prepared envelope names
      return ((name, schema) :: schemas, prepared, envelope)

def compileArgument (name : PyStr) (schema : JsonObject) (required onWire : Bool)
    (presentationIndex : Nat) (mode : ToolConstraintMode) (wirePayloadLimit : Int)
    (allowFormatFallback : Bool) : Except CompileFailure ArgumentBranchPlan := do
  let proof ← libraries.argumentProof spec capabilities name schema mode wirePayloadLimit
    allowFormatFallback
  branchArgument name required onWire (canonicalJsonDumps (.dict schema)) presentationIndex proof

def unselectedOptionalArgument (name : PyStr) (schema : JsonObject) (presentationIndex : Nat) :
    Except CompileFailure ArgumentBranchPlan :=
  branchArgument name false false (canonicalJsonDumps (.dict schema)) presentationIndex
    (unsupportedProof (framingOf spec.framingSelector schema))

def compileNextArgument (prepared : PreparedTool) (schemas : List (PyStr × JsonObject))
    (mode : ToolConstraintMode) (allowFormatFallback : Bool) (envelope : HardEnvelopeBudget)
    (name : PyStr) (index : Nat) : Stage (ArgumentBranchPlan × HardEnvelopeBudget) :=
  if wireRequired spec prepared.requiredNames name then do
    let argument ← uncharged <|
      match (schemas.find? (·.1 = name)).map Prod.snd with
      | none => .error (.raised [.repr name])
      | some schema =>
          compileArgument libraries spec capabilities name schema
            (prepared.requiredNames.contains name) true index mode
            envelope.remainingFiniteWirePayloadBytes allowFormatFallback
    let envelope ← uncharged do
      envelope.consumeFiniteWirePayloadBytes (← finiteWirePayloadBytes argument)
    let bytes ← uncharged (argumentSemanticProductBytes argument)
    chargeBytes bytes
    pure (argument, envelope)
  else do
    let argument ← uncharged <|
      match prepared.propertySchema name with
      | none => .error (.raised [.repr name])
      | some schema => unselectedOptionalArgument spec name schema index
    pure (argument, envelope)

def compileArguments (prepared : PreparedTool) (schemas : List (PyStr × JsonObject))
    (mode : ToolConstraintMode) (allowFormatFallback : Bool) :
    HardEnvelopeBudget → List (PyStr × Nat) →
      Stage (List ArgumentBranchPlan × HardEnvelopeBudget)
  | envelope, [] => pure ([], envelope)
  | envelope, (name, index) :: names => do
      let (argument, envelope) ← compileNextArgument libraries spec capabilities prepared schemas
        mode allowFormatFallback envelope name index
      let (arguments, envelope) ←
        compileArguments prepared schemas mode allowFormatFallback envelope names
      pure (argument :: arguments, envelope)

def witnessSchema (schema : JsonObject) (resolved : List (PyStr × JsonObject)) : JsonObject :=
  let properties : JsonValue := .dict (resolved.map fun property => (property.1, .dict property.2))
  if schema.keys.contains (py "properties") then
    schema.map fun entry => if entry.1 = py "properties" then (entry.1, properties) else entry
  else schema ++ [(py "properties", properties)]

def compileToolSemantics (prepared : PreparedTool) (mode : ToolConstraintMode)
    (envelope : HardEnvelopeBudget) (allowFormatFallback : Bool) :
    Stage (CompiledToolSemantics × HardEnvelopeBudget) := do
  let (schemas, prepared, envelope) ← uncharged <|
    resolveSchemas libraries prepared envelope
      (prepared.orderEvidence.filter (wireRequired spec prepared.requiredNames))
  let tool := prepared.tool
  let nameRepresentable :=
    spec.functionNameCodec.isLosslesslyRepresentableForTerminal tool.name spec.functionOpen
  let objectSchemaSafe :=
    if capabilities.decoderSafeGenerationSchema ∧ mode = .format then false
    else libraries.objectSchemaProof prepared.schema capabilities tool.parameters.canonicalJson
      (witnessSchema prepared.schema schemas)
  let (arguments, envelope) ← compileArguments libraries spec capabilities prepared schemas mode
    allowFormatFallback envelope prepared.orderEvidence.zipIdx
  let onWire := arguments.filter ArgumentBranchPlan.wireRequired
  let representable := nameRepresentable && onWire.all ArgumentBranchPlan.generated
  let guarantee :=
    if nameRepresentable then toolGuarantee arguments mode objectSchemaSafe else .none
  let selectedMode :=
    if mode = .schema ∧ allowFormatFallback = true ∧ tool.strict = false ∧
        representable = true ∧ guarantee = .format then .format
    else mode
  pure ({
    prepared
    mode := selectedMode
    nameRepresentable
    objectSchemaSafe
    arguments
    optionalArgumentCandidates := .empty
    wireRequiredNames := onWire.map ArgumentBranchPlan.name }, envelope)

end Semantics

/-! ## Branches and products -/

def materializeToolBranch (semantics : CompiledToolSemantics) (orderPlan : ArgumentOrderPlan) :
    Except CompileFailure ToolBranchPlan :=
  let tool := semantics.prepared.tool
  let referenced := orderPlan.orders.flatten
  let arguments := semantics.arguments.map fun argument =>
    if referenced.contains argument.name then
      (semantics.optionalArgumentCandidates.get? argument.name).getD argument
    else argument
  let allGenerated := (arguments.filter ArgumentBranchPlan.wireRequired).all
    ArgumentBranchPlan.generated
  let guarantee :=
    if semantics.nameRepresentable then
      toolGuarantee arguments semantics.mode semantics.objectSchemaSafe
    else .none
  let representable := semantics.nameRepresentable && allGenerated &&
    !(decide (semantics.mode = .schema) && decide (guarantee ≠ .schema)) &&
    !(tool.strict && decide (guarantee ≠ .schema))
  if unique : (arguments.map ArgumentBranchPlan.name).Nodup then
    if named : tool.name ≠ [] then
      .ok {
        toolName := tool.name
        strict := tool.strict
        representable
        arguments
        orderPlan
        guarantee
        nameNonempty := named
        argumentNamesUnique := unique }
    else .error (.raised (plain "tool_name must be non-empty"))
  else .error (.raised (plain "argument branch names must be unique"))

def compileDisposition (tools : List ToolBranchPlan) (withinBudget : Bool) :
    PlanCompileDisposition :=
  if !withinBudget then .rejected
  else if tools.isEmpty then .validationOnly
  else if tools.any fun branch => branch.strict && !branch.representable then .rejected
  else if tools.any ToolBranchPlan.strict then
    if tools.all fun branch =>
        branch.representable &&
          (decide (branch.guarantee = .format) || decide (branch.guarantee = .schema)) &&
          (!branch.strict || decide (branch.guarantee = .schema)) then
      .constrainedExecutable
    else .rejected
  else if tools.all fun branch => branch.representable && decide (branch.guarantee ≠ .none) then
    .constrainedExecutable
  else .validationOnly

def toolFiniteWirePayloadBytes (tools : List ToolBranchPlan) : Except CompileFailure Nat := do
  let sizes ← (tools.flatMap ToolBranchPlan.arguments).mapM finiteWirePayloadBytes
  return sizes.sum

def orderProductCost (tools : List ToolBranchPlan) : Except CompileFailure OrderProductCost := do
  let orders := tools.flatMap fun tool => tool.orderPlan.orders
  let sizes ← orders.flatten.mapM utf8LenOrHardReject
  return {
    cost := ⟨orders.length, sizes.sum, orders.length + orders.flatten.length⟩
    permutations := orders.length }

def artifactCost {π : Type} (artifact : Option (ConstraintArtifactCandidate π)) : ProductCost :=
  (artifact.map ConstraintArtifactCandidate.cost).getD .zero

def candidateProductsFit {π : Type} (ledger : CompileBudgetLedger) (order : OrderProductCost)
    (artifact : Option (ConstraintArtifactCandidate π)) (finiteWirePayloadBytes : Nat)
    (semantic : ProductCost) : Bool :=
  let added := (semantic.add order.cost).add (artifactCost artifact)
  decide ((artifactCost artifact).estimatedBytes ≤ hardMaxFinalArtifactBytes) &&
    decide (finiteWirePayloadBytes ≤ hardMaxFiniteWirePayloadBytesTotal) &&
    decide (ledger.estimatedRules + added.estimatedRules ≤ ledger.budget.maxEstimatedRules) &&
    decide (ledger.estimatedBytes + added.estimatedBytes ≤ ledger.budget.maxEstimatedBytes) &&
    decide (ledger.workUnits + added.workUnits ≤ ledger.budget.maxWorkUnits) &&
    decide (order.permutations ≤ ledger.budget.maxPermutations)

end ExQServe.ToolWire
