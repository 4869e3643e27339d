import ExQServe.Agent.Tools
import ExQServe.Foundation.Dict
import ExQServe.ToolWire.Contracts

/-! # The budgets of the plan compiler

The model of the ledger and of the hard envelope of `tool_wire/compiler.py`. -/

namespace ExQServe.ToolWire

/-! ## Limits -/

def hardMaxExposedTools : Nat := 128

def hardMaxNameChars : Nat := 1024

def hardMaxSchemaSourceCharsPerTool : Nat := 1048576

def hardMaxSchemaSourceCharsTotal : Nat := 4194304

def hardMaxSchemaNodesPerTool : Nat := 100000

def hardMaxSchemaNodesTotal : Nat := 200000

def hardMaxSchemaDepth : Nat := 64

def hardMaxObjectProperties : Nat := 1024

def hardMaxObjectRequired : Nat := 1024

def hardMaxFiniteCardinality : Nat := 8192

def hardMaxFiniteWirePayloadBytesTotal : Nat := 8388608

def hardMaxFinalArtifactBytes : Nat := 16777216

/-! ## Failures -/

inductive CompileFailure
  /-- `_BranchBudgetExceeded`. -/
  | branchBudgetExceeded
  /-- `_HardComplexityExceeded`. -/
  | hardComplexityExceeded
  | toolWireCompileError (message : Message)
  | toolConstraintUnsupported (message : Message)
  | toolWireConstraintLoweringUnsupported (message : Message)
  /-- Any other exception. -/
  | raised (message : Message)
deriving DecidableEq

def demand (condition : Bool) (failure : CompileFailure) : Except CompileFailure Unit :=
  if condition then .ok () else .error failure

def utf8LenOrHardReject (value : PyStr) : Except CompileFailure Nat :=
  if value.utf8Encodable then .ok value.utf8Length else .error .hardComplexityExceeded

/-! ## The budget -/

/-- `_SemanticProductCost` and `_ArtifactProductCost`. -/
structure ProductCost where
  estimatedRules : Nat
  estimatedBytes : Nat
  workUnits : Nat
deriving DecidableEq

namespace ProductCost

def zero : ProductCost := ⟨0, 0, 0⟩

def add (left right : ProductCost) : ProductCost :=
  ⟨left.estimatedRules + right.estimatedRules, left.estimatedBytes + right.estimatedBytes,
    left.workUnits + right.workUnits⟩

/-- A negative difference raises. -/
def sub (left right : ProductCost) : Except CompileFailure ProductCost :=
  if right.estimatedRules ≤ left.estimatedRules ∧ right.estimatedBytes ≤ left.estimatedBytes ∧
      right.workUnits ≤ left.workUnits then
    .ok ⟨left.estimatedRules - right.estimatedRules, left.estimatedBytes - right.estimatedBytes,
      left.workUnits - right.workUnits⟩
  else .error (.raised (plain "semantic product costs must be non-negative"))

def sum (costs : List ProductCost) : ProductCost := costs.foldl add zero

end ProductCost

structure OrderProductCost where
  cost : ProductCost
  permutations : Nat

@[ext] structure CompileBudget where
  maxPermutations : Nat
  maxEstimatedRules : Nat
  maxEstimatedBytes : Nat
  maxWorkUnits : Nat
  permutationsPositive : 0 < maxPermutations
  rulesPositive : 0 < maxEstimatedRules
  bytesPositive : 0 < maxEstimatedBytes
  workPositive : 0 < maxWorkUnits

instance : DecidableEq CompileBudget := fun _ _ => decidable_of_iff' _ CompileBudget.ext_iff

structure CompileBudgetResult where
  estimatedRules : Nat
  estimatedBytes : Nat
  workUnits : Nat
  permutationsReserved : Nat
  withinBudget : Bool
  narrowedPermutations : Bool
deriving DecidableEq

structure CompileBudgetLedger where
  budget : CompileBudget
  estimatedRules : Nat
  estimatedBytes : Nat
  workUnits : Nat
  permutationsReserved : Nat
  narrowedPermutations : Bool

namespace CompileBudgetLedger

def initial (budget : CompileBudget) : CompileBudgetLedger := ⟨budget, 0, 0, 0, 0, false⟩

def withinBudget (ledger : CompileBudgetLedger) : Bool :=
  decide (ledger.estimatedRules ≤ ledger.budget.maxEstimatedRules) &&
    decide (ledger.estimatedBytes ≤ ledger.budget.maxEstimatedBytes) &&
    decide (ledger.workUnits ≤ ledger.budget.maxWorkUnits) &&
    decide (ledger.permutationsReserved ≤ ledger.budget.maxPermutations)

def charged (ledger : CompileBudgetLedger) (cost : ProductCost) (permutations : Nat) :
    CompileBudgetLedger :=
  { ledger with
    estimatedRules := ledger.estimatedRules + cost.estimatedRules
    estimatedBytes := ledger.estimatedBytes + cost.estimatedBytes
    workUnits := ledger.workUnits + cost.workUnits
    permutationsReserved := ledger.permutationsReserved + permutations }

def markNarrowed (ledger : CompileBudgetLedger) : CompileBudgetLedger :=
  { ledger with narrowedPermutations := true }

def snapshot (ledger : CompileBudgetLedger) : CompileBudgetResult where
  estimatedRules := ledger.estimatedRules
  estimatedBytes := ledger.estimatedBytes
  workUnits := ledger.workUnits
  permutationsReserved := ledger.permutationsReserved
  withinBudget := ledger.withinBudget
  narrowedPermutations := ledger.narrowedPermutations

end CompileBudgetLedger

/-- A stage charges the ledger, which keeps its charges when the stage fails. -/
abbrev Stage := EStateM CompileFailure CompileBudgetLedger

/-- `ledger.reserve`: the attempted numbers stay when they exceed the budget. -/
def reserve (cost : ProductCost) (permutations : Nat) : Stage Unit := fun ledger =>
  let next := ledger.charged cost permutations
  if next.withinBudget then .ok () next else .error .branchBudgetExceeded next

def chargeBytes (byteCount : Nat) : Stage Unit := reserve ⟨0, byteCount, 0⟩ 0

def uncharged {α : Type} (result : Except CompileFailure α) : Stage α := fun ledger =>
  match result with
  | .ok value => .ok value ledger
  | .error failure => .error failure ledger

/-! ## The hard envelope -/

structure HardEnvelopeBudget where
  schemaNodesUsed : Nat
  finiteWirePayloadBytesUsed : Nat
  nodesBounded : schemaNodesUsed ≤ hardMaxSchemaNodesTotal
  bytesBounded : finiteWirePayloadBytesUsed ≤ hardMaxFiniteWirePayloadBytesTotal

namespace HardEnvelopeBudget

def initial : HardEnvelopeBudget := ⟨0, 0, Nat.zero_le _, Nat.zero_le _⟩

def remainingSchemaNodes (envelope : HardEnvelopeBudget) : Nat :=
  hardMaxSchemaNodesTotal - envelope.schemaNodesUsed

def remainingFiniteWirePayloadBytes (envelope : HardEnvelopeBudget) : Nat :=
  hardMaxFiniteWirePayloadBytesTotal - envelope.finiteWirePayloadBytesUsed

def consumeSchemaNodes (envelope : HardEnvelopeBudget) (nodes : Nat) :
    Except CompileFailure HardEnvelopeBudget :=
  if fits : envelope.schemaNodesUsed + nodes ≤ hardMaxSchemaNodesTotal then
    .ok ⟨envelope.schemaNodesUsed + nodes, envelope.finiteWirePayloadBytesUsed, fits,
      envelope.bytesBounded⟩
  else .error .hardComplexityExceeded

def consumeFiniteWirePayloadBytes (envelope : HardEnvelopeBudget) (byteCount : Nat) :
    Except CompileFailure HardEnvelopeBudget :=
  if fits : envelope.finiteWirePayloadBytesUsed + byteCount ≤
    hardMaxFiniteWirePayloadBytesTotal then
    .ok ⟨envelope.schemaNodesUsed, envelope.finiteWirePayloadBytesUsed + byteCount,
      envelope.nodesBounded, fits⟩
  else .error .hardComplexityExceeded

/-- `hard_envelope.schema_nodes_used = base_schema_nodes`. -/
def restoreSchemaNodes (envelope base : HardEnvelopeBudget) : HardEnvelopeBudget :=
  ⟨base.schemaNodesUsed, envelope.finiteWirePayloadBytesUsed, base.nodesBounded,
    envelope.bytesBounded⟩

end HardEnvelopeBudget

mutual

def jsonNodeCount : JsonValue → Nat
  | .list items => 1 + itemsNodeCount items
  | .dict entries => 1 + entriesNodeCount entries
  | _ => 1

def itemsNodeCount : List JsonValue → Nat
  | [] => 0
  | item :: items => jsonNodeCount item + itemsNodeCount items

def entriesNodeCount : List (PyStr × JsonValue) → Nat
  | [] => 0
  | (_, value) :: entries => jsonNodeCount value + entriesNodeCount entries

end

def objectInsideEnvelope (entries : JsonObject) : Bool :=
  (match entries.get? (py "properties") with
  | some (.dict properties) =>
      decide (properties.length ≤ hardMaxObjectProperties) &&
        properties.all fun property => decide (property.1.length ≤ hardMaxNameChars)
  | _ => true) &&
  (match entries.get? (py "required") with
  | some (.list required) =>
      decide (required.length ≤ hardMaxObjectRequired) &&
        required.all fun name =>
          match name with
          | .str name => decide (name.length ≤ hardMaxNameChars)
          | _ => true
  | _ => true) &&
  match entries.get? (py "enum") with
  | some (.list values) => decide (values.length ≤ hardMaxFiniteCardinality)
  | _ => true

mutual

def insideEnvelope (depth : Nat) : JsonValue → Bool
  | .list items => decide (depth ≤ hardMaxSchemaDepth) && itemsInsideEnvelope (depth + 1) items
  | .dict entries =>
      decide (depth ≤ hardMaxSchemaDepth) && objectInsideEnvelope entries &&
        entriesInsideEnvelope (depth + 1) entries
  | _ => decide (depth ≤ hardMaxSchemaDepth)

def itemsInsideEnvelope (depth : Nat) : List JsonValue → Bool
  | [] => true
  | item :: items => insideEnvelope depth item && itemsInsideEnvelope depth items

def entriesInsideEnvelope (depth : Nat) : List (PyStr × JsonValue) → Bool
  | [] => true
  | (_, value) :: entries => insideEnvelope depth value && entriesInsideEnvelope depth entries

end

/-- `_validate_schema_hard_envelope` under a limit of the context: the nodes of the schema.
The walk of the source stops at the first excess and raises the same exception for all. -/
def validateSchemaHardEnvelope (maxNodes : Nat) (schema : JsonObject) : Except CompileFailure Nat :=
  let nodes := jsonNodeCount (.dict schema)
  if insideEnvelope 1 (.dict schema) && decide (nodes ≤ min hardMaxSchemaNodesPerTool maxNodes) then
    .ok nodes
  else .error .hardComplexityExceeded

end ExQServe.ToolWire
