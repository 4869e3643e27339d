import ExQServe.ToolWire.PlanCompiler
import ExQServe.ToolWire.QwenRegion
import ExQServe.ToolWire.QwenSpec

/-! # The compilation of Qwen tools

The model of `compile_qwen_tool_wire` and of its cache in `tool_wire/controls/qwen.py`. The
schema proofs, the resolver of property schemas and the renderer of the grammar are
parameters. The key leaves out the fingerprint of the specification and the identities of the
functions, which are the same for every call. -/

namespace ExQServe.ToolWire

/-! ## Results -/

structure QwenToolWireDecodeAuthority where
  spec : ToolWireSpec
  plan : PlanCompilation
  constraintIdentity : PyStr
deriving DecidableEq

structure ToolGenerationConstraint where
  trigger : PyStr
  larkGrammar : PyStr
  eosAfterCompleted : Bool
  branchGuarantees : Option (List (PyStr × GenerationGuarantee))
  constraintFingerprint : Option PyStr
  decodeAuthority : Option QwenToolWireDecodeAuthority
deriving DecidableEq

structure QwenToolWireCompilation where
  spec : ToolWireSpec
  plan : PlanCompilation
  constraint : Option ToolGenerationConstraint
  grammarFingerprint : Option PyStr
  parallelGenerationNarrowed : Bool
  orderGenerationNarrowed : Bool
  branchGenerationNarrowed : Bool
deriving DecidableEq

/-! ## Calls -/

structure QwenLibraries (π : Type) where
  argumentProof : ToolWireSpec → ConstraintCompilerCapabilities → PyStr → JsonObject →
    ToolConstraintMode → Int → Bool → Except CompileFailure ArgumentProof
  objectSchemaProof : JsonObject → ConstraintCompilerCapabilities → PyStr → JsonObject → Bool
  qwenResolvePropertySchema : JsonObject → JsonObject → Nat → Nat →
    Except CompileFailure ResolvedProperty
  buildLarkToolConstraintCandidate : ToolWireSpec → List ToolBranchPlan → List String → Bool →
    Int → Except CompileFailure (ConstraintArtifactCandidate π)
  finalizeLarkToolConstraintCandidate : ConstraintArtifactCandidate π →
    Except CompileFailure (ToolGenerationConstraint × PyStr)

structure QwenCompileCall where
  policy : ToolPolicy
  mode : ToolConstraintMode
  budget : Option CompileBudget
  maxParallelCalls : Int

def qwenProductionCompilerCapabilities : ConstraintCompilerCapabilities where
  capabilityId := "qwen-production-lark-v1"
  supportedObjectKeywords := ["type", "properties", "required", "additionalProperties", "$defs",
    "definitions"].map py
  supportedPropertyKeywords := ["type", "enum", "const", "minimum", "maximum", "properties",
    "required", "additionalProperties", "items"].map py
  schemaSemanticAuthority := .draft202012
  decoderSafeGenerationSchema := true

theorem qwenPermutations_positive : 0 < 1000 := by decide

def qwenDefaultBudget : CompileBudget where
  maxPermutations := 1000
  maxEstimatedRules := 100000
  maxEstimatedBytes := 10000000
  maxWorkUnits := 100000
  permutationsPositive := qwenPermutations_positive
  rulesPositive := by decide
  bytesPositive := by decide
  workPositive := by decide

/-! ## The compilation -/

def qwenExposedHasStrict (policy : ToolPolicy) (exposed : List ExposedTool) : Bool :=
  match policy.choice.mode with
  | .none => false
  | .named => (exposed.head?.map ExposedTool.strict).getD false
  | _ => policy.tools.any FunctionTool.strict

/-- `_qwen_nonconstrained_plan` with all its fields. -/
def nonconstrainedPlan (policy : ToolPolicy) (mode : ToolConstraintMode)
    (budget : CompileBudget) (disposition : PlanCompileDisposition) : PlanCompilation where
  plan :=
    { qwenNonconstrainedPlan qwenProductionToolWireSpec policy.allowParallel with disposition }
  constraintMode := mode
  compileBudget := budget
  budgetResult := ⟨0, 0, 0, 0, true, false⟩
  constraintFingerprint := none
  activation := none

def unconstrainedResult (plan : PlanCompilation) (narrowed : Bool) : QwenToolWireCompilation where
  spec := qwenProductionToolWireSpec
  plan
  constraint := none
  grammarFingerprint := none
  parallelGenerationNarrowed := false
  orderGenerationNarrowed := false
  branchGenerationNarrowed := narrowed

/-- The facts that are read off before any schema is walked: a name or a source too long, or
a name that cannot be encoded. -/
def hardLimitExceeded : Nat → List ExposedTool → Bool
  | _, [] => false
  | aggregate, tool :: tools =>
      let source := tool.parameters.canonicalJson
      let aggregate := aggregate + source.length
      decide (hardMaxNameChars < tool.name.length) || !tool.name.utf8Encodable ||
        decide (hardMaxSchemaSourceCharsPerTool < source.length) ||
        decide (hardMaxSchemaSourceCharsTotal < aggregate) || hardLimitExceeded aggregate tools

def qwenEffectiveToolModes (exposed : List ExposedTool) (hasStrict : Bool)
    (mode : ToolConstraintMode) : Dict PyStr ToolConstraintMode :=
  exposed.foldl (fun modes tool =>
    modes.set tool.name <|
      if mode = .schema ∨ tool.strict = true then .schema
      else if mode = .format ∨ hasStrict = true then .format
      else .off) .empty

def unsupported (message : String) : CompileFailure := .toolConstraintUnsupported (plain message)

def envelopeProperties (schema : JsonObject) : Except CompileFailure (List PyStr) :=
  match getOr schema (py "properties") (.dict []) with
  | .dict properties =>
      match objectSchemas properties with
      | some _ => .ok (properties.map Prod.fst)
      | none =>
          .error (unsupported "Qwen constrained tool properties must map names to schema objects")
  | _ => .error (unsupported "top-level properties must be an object in Qwen schema mode")

def envelopeRequired (schema : JsonObject) : Except CompileFailure (List PyStr) :=
  match getOr schema (py "required") (.list []) with
  | .list required =>
      match stringNames required with
      | some names => .ok names
      | none => .error (unsupported "top-level required must contain property names")
  | _ => .error (unsupported "top-level required must contain property names")

def qwenParameterEnvelopeValue (schema : JsonObject) : Except CompileFailure JsonObject := do
  demand (decide (schemaType schema = some (py "object"))) (unsupported
    "function parameter schemas must declare top-level type 'object' in Qwen schema mode")
  let properties ← envelopeProperties schema
  let required ← envelopeRequired schema
  let missing := required.filter fun name => !properties.contains name
  demand missing.isEmpty (.toolConstraintUnsupported
    [.text "required property has no declared schema in Qwen constrained generation: ",
      .str (firstMissing missing)])
  return schema

inductive EnvelopeWalk
  | hardLimit
  | unsupported (failure : CompileFailure)
  | schemas (envelopes : Dict PyStr JsonObject)

def cardinalityExceeded (schema : JsonObject) : Bool :=
  (match getOr schema (py "properties") (.dict []) with
  | .dict properties => decide (hardMaxObjectProperties < properties.length)
  | _ => false) ||
  match getOr schema (py "required") (.list []) with
  | .list required => decide (hardMaxObjectRequired < required.length)
  | _ => false

def walkEnvelopes : Dict PyStr JsonObject → List ExposedTool → EnvelopeWalk
  | envelopes, [] => .schemas envelopes
  | envelopes, tool :: tools =>
      let schema := tool.parameters.document
      if cardinalityExceeded schema then .hardLimit
      else
        match qwenParameterEnvelopeValue schema with
        | .error failure => .unsupported failure
        | .ok schema => walkEnvelopes (envelopes.set tool.name schema) tools

/-- `_qwen_presentation_orders`; every exposed tool has its envelope. -/
def qwenPresentationOrders (exposed : List ExposedTool) (envelopes : Dict PyStr JsonObject) :
    Dict PyStr (List PyStr) :=
  exposed.foldl (fun orders tool =>
    orders.set tool.name <|
      match getOr ((envelopes.get? tool.name).getD []) (py "properties") (.dict []) with
      | .dict properties => properties.map Prod.fst
      | _ => []) .empty

section Compilation

variable {π : Type} (libraries : QwenLibraries π) (call : QwenCompileCall)

def QwenCompileCall.compileBudget (call : QwenCompileCall) : CompileBudget :=
  call.budget.getD qwenDefaultBudget

def QwenCompileCall.allowsParallel (call : QwenCompileCall) : Bool :=
  call.policy.allowParallel && decide (1 < call.maxParallelCalls)

def QwenCompileCall.nonconstrained (call : QwenCompileCall)
    (disposition : PlanCompileDisposition) : PlanCompilation :=
  nonconstrainedPlan call.policy call.mode call.compileBudget disposition

def hardLimitResult (strictPresent : Bool) : QwenToolWireCompilation :=
  let disposition : PlanCompileDisposition :=
    if strictPresent then .rejected else .validationOnly
  unconstrainedResult (call.nonconstrained disposition) (decide (disposition = .validationOnly))

def planLibraries : PlanLibraries π where
  argumentProof := libraries.argumentProof
  objectSchemaProof := libraries.objectSchemaProof
  propertySchemaResolver := some libraries.qwenResolvePropertySchema
  constraintArtifacts := some {
    builder := fun spec tools triggers =>
      libraries.buildLarkToolConstraintCandidate spec tools triggers call.allowsParallel
        call.maxParallelCalls
    finalizer := fun candidate =>
      (libraries.finalizeLarkToolConstraintCandidate candidate).map Prod.snd }

def planRequest (exposed : List ExposedTool) (modes : Dict PyStr ToolConstraintMode)
    (envelopes : Dict PyStr JsonObject) : PlanRequest where
  spec := qwenProductionToolWireSpec
  policy := call.policy
  mode := call.mode
  compilerCapabilities := qwenProductionCompilerCapabilities
  presentationOrders := qwenPresentationOrders exposed envelopes
  budget := call.compileBudget
  constraintFingerprint := none
  activationTriggerIds := some ["tool-open"]
  effectiveToolModes := some modes
  allowFormatFallbackTools := some ((exposed.filter fun tool =>
    !tool.strict && decide (modes.get? tool.name = some .schema)).map ExposedTool.name)

def parallelNarrowed (plan : PlanCompilation) : Bool :=
  decide (plan.plan.disposition = .constrainedExecutable) &&
    qwenProductionToolWireSpec.multiplicity.adjacentTools && !call.allowsParallel

def callLimit : Nat := if call.allowsParallel then call.maxParallelCalls.toNat else 1

theorem callLimit_pos : ∀ limit, some (callLimit call) = some limit → 0 < limit := by
  intro limit same
  cases same
  rw [callLimit]
  split
  · rename_i parallel
    rw [QwenCompileCall.allowsParallel, Bool.and_eq_true, decide_eq_true_eq] at parallel
    omega
  · exact Nat.one_pos

def bindConstraint (plan : PlanCompilation) (constraint : ToolGenerationConstraint)
    (fingerprint : PyStr) : Except CompileFailure (PlanCompilation × ToolGenerationConstraint) := do
  let bound : PlanCompilation := { plan with
    plan := { plan.plan with
      maxCallsPerSequence := some (callLimit call)
      maxCallsPositive := callLimit_pos call } }
  demand (decide (plan.plan.specFingerprint = qwenProductionToolWireSpec))
    (.raised (plain "Qwen Tool-Wire decode authority plan/spec mismatch"))
  demand (!fingerprint.isEmpty)
    (.raised (plain "constraint_identity must be a non-empty string"))
  demand (decide (plan.constraintFingerprint = some fingerprint))
    (.raised (plain "Qwen Tool-Wire decode authority identity mismatch"))
  demand (!fingerprint.isBlank) (.raised (plain "constraint_fingerprint must not be empty"))
  return (bound, { constraint with
    constraintFingerprint := some fingerprint
    decodeAuthority := some ⟨qwenProductionToolWireSpec, bound, fingerprint⟩ })

def branchNarrowed (modes : Dict PyStr ToolConstraintMode) (plan : PlanCompilation) : Bool :=
  decide (plan.plan.disposition = .validationOnly) ||
    plan.plan.tools.any fun tool =>
      decide (modes.get? tool.toolName = some .schema) && decide (tool.guarantee = .format)

def planResult (modes : Dict PyStr ToolConstraintMode) (plan : PlanCompilation) :
    QwenToolWireCompilation where
  spec := qwenProductionToolWireSpec
  plan
  constraint := none
  grammarFingerprint := none
  parallelGenerationNarrowed := parallelNarrowed call plan
  orderGenerationNarrowed := plan.plan.tools.any fun tool => tool.orderPlan.narrowed
  branchGenerationNarrowed := branchNarrowed modes plan

/-- The compilation from the plan on; the candidate is what the finalizer was called with. -/
def finishCompilation (modes : Dict PyStr ToolConstraintMode) (hasStrict : Bool)
    (plan : PlanCompilation) (finalized : Option (ConstraintArtifactCandidate π)) :
    Except CompileFailure QwenToolWireCompilation :=
  if plan.plan.disposition = .rejected ∧ hasStrict = false then
    .ok (unconstrainedResult (call.nonconstrained .validationOnly) true)
  else if plan.plan.disposition ≠ .constrainedExecutable then .ok (planResult call modes plan)
  else
    match finalized.map libraries.finalizeLarkToolConstraintCandidate with
    | some (.ok (constraint, fingerprint)) =>
        if plan.constraintFingerprint = some fingerprint then do
          let (bound, constraint) ← bindConstraint call plan constraint fingerprint
          return { planResult call modes bound with
            constraint := some constraint
            grammarFingerprint := some fingerprint }
        else .error (.raised (plain ("Qwen production Tool-Wire session did not bind one " ++
          "stable grammar fingerprint")))
    | _ => .error (.raised (plain ("Qwen production Tool-Wire session did not bind one " ++
        "stable grammar fingerprint")))

def answerUnsupported (hasStrict : Bool) (failure : CompileFailure) :
    Except CompileFailure QwenToolWireCompilation :=
  if hasStrict = true ∨ call.mode = .schema then .error failure
  else .ok (unconstrainedResult (call.nonconstrained .validationOnly) true)

def compilePlan (exposed : List ExposedTool) (hasStrict : Bool)
    (modes : Dict PyStr ToolConstraintMode) (envelopes : Dict PyStr JsonObject) :
    Except CompileFailure QwenToolWireCompilation :=
  match compileToolWirePlan (planLibraries libraries call)
      (planRequest call exposed modes envelopes) with
  | .ok (plan, finalized) => finishCompilation libraries call modes hasStrict plan finalized
  | .error (.toolWireConstraintLoweringUnsupported _) =>
      if hasStrict then
        .error (unsupported
          "Qwen Tool-Wire backend cannot lower the requested constrained Tool policy")
      else .ok (unconstrainedResult (call.nonconstrained .validationOnly) true)
  | .error (.toolConstraintUnsupported message) =>
      answerUnsupported call hasStrict (.toolConstraintUnsupported message)
  | .error failure => .error failure

def compileQwenToolWireUncached : Except CompileFailure QwenToolWireCompilation :=
  if call.maxParallelCalls ≤ 0 then
    .error (.raised (plain "max_parallel_calls must be a positive integer"))
  else
    let exposed := exposedTools call.policy
    let hasStrict := qwenExposedHasStrict call.policy exposed
    if exposed.isEmpty = true ∨ (call.mode = .off ∧ hasStrict = false) then
      .ok (unconstrainedResult (call.nonconstrained .validationOnly) false)
    else if hardMaxExposedTools < exposed.length ∨ hardLimitExceeded 0 exposed = true then
      .ok (hardLimitResult call hasStrict)
    else
      match walkEnvelopes .empty exposed with
      | .hardLimit => .ok (hardLimitResult call hasStrict)
      | .unsupported failure => answerUnsupported call hasStrict failure
      | .schemas envelopes =>
          compilePlan libraries call exposed hasStrict
            (qwenEffectiveToolModes exposed hasStrict call.mode) envelopes

end Compilation

end ExQServe.ToolWire
