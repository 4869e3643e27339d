import ExQServe.Foundation.Failing
import ExQServe.ToolWire.PlanCompiler

/-! # The minimal language of a plan

What stage B of the compiler leaves behind: the ledger has no permutation reserved, and
every exposed tool has an argument for each name that has to stand on the wire. -/

namespace ExQServe.ToolWire

open Failing

/-! ## Stage B and the ledger -/

/-- The limits are the same, and no permutation has been reserved between. -/
structure SameLimits (ledger next : CompileBudgetLedger) : Prop where
  budget : next.budget = ledger.budget
  permutations : next.permutationsReserved = ledger.permutationsReserved

namespace SameLimits

theorem refl (ledger : CompileBudgetLedger) : SameLimits ledger ledger := ⟨rfl, rfl⟩

theorem trans {first second third : CompileBudgetLedger} (left : SameLimits first second)
    (right : SameLimits second third) : SameLimits first third :=
  ⟨right.budget.trans left.budget, right.permutations.trans left.permutations⟩

end SameLimits

theorem reserve_eq_ok {cost : ProductCost} {permutations : Nat} {ledger next : CompileBudgetLedger}
    {value : Unit} (reserved : reserve cost permutations ledger = .ok value next) :
    next = ledger.charged cost permutations ∧ next.withinBudget = true := by
  rw [reserve] at reserved
  split at reserved
  · rename_i within
    cases reserved
    exact ⟨rfl, within⟩
  · cases reserved

theorem frames_reserve (cost : ProductCost) : Frames SameLimits (reserve cost 0) := by
  intro ledger value next reserved
  rw [(reserve_eq_ok reserved).1]
  exact ⟨rfl, rfl⟩

theorem uncharged_eq_ok {α : Type} {result : Except CompileFailure α} {value : α}
    {ledger next : CompileBudgetLedger} (ended : uncharged result ledger = .ok value next) :
    result = .ok value ∧ next = ledger := by
  cases result with
  | error failure => cases ended
  | ok found =>
      cases ended
      exact ⟨rfl, rfl⟩

theorem frames_uncharged {α : Type} (result : Except CompileFailure α) :
    Frames SameLimits (uncharged result) := by
  intro ledger value next ended
  rw [(uncharged_eq_ok ended).2]
  exact .refl ledger

theorem frames_then {α β : Type} {first : Stage α} {next : α → Stage β}
    (here : Frames SameLimits first) (there : ∀ value, Frames SameLimits (next value)) :
    Frames SameLimits (first >>= next) :=
  frames_bind (fun _ _ _ left right => left.trans right) here there

theorem frames_done {α : Type} (value : α) : Frames SameLimits (pure value : Stage α) :=
  frames_pure SameLimits.refl value

section Frames

variable {π : Type} {libraries : PlanLibraries π} {request : PlanRequest}

theorem frames_prepareTools (exposedCount aggregate : Nat) (envelope : HardEnvelopeBudget)
    (tools : List ExposedTool) :
    Frames SameLimits (prepareTools request exposedCount aggregate envelope tools) := by
  induction tools generalizing aggregate envelope with
  | nil => exact frames_done _
  | cons tool tools induction =>
      rw [prepareTools]
      apply frames_then (frames_uncharged _)
      intro admitted
      apply frames_then (frames_reserve _)
      intro _
      apply frames_then (frames_uncharged _)
      intro charged
      apply frames_then (frames_uncharged _)
      intro prepared
      apply frames_then (frames_uncharged _)
      intro cost
      apply frames_then (frames_reserve _)
      intro _
      apply frames_then (induction _ _)
      intro rest
      exact frames_done _

theorem frames_compileNextArgument (spec : ToolWireSpec)
    (capabilities : ConstraintCompilerCapabilities) (prepared : PreparedTool)
    (schemas : List (PyStr × JsonObject)) (mode : ToolConstraintMode) (fallback : Bool)
    (envelope : HardEnvelopeBudget) (name : PyStr) (index : Nat) :
    Frames SameLimits
      (compileNextArgument libraries spec capabilities prepared schemas mode fallback envelope
        name index) := by
  rw [compileNextArgument]
  split
  · apply frames_then (frames_uncharged _)
    intro argument
    apply frames_then (frames_uncharged _)
    intro charged
    apply frames_then (frames_uncharged _)
    intro bytes
    apply frames_then (frames_reserve _)
    intro _
    exact frames_done _
  · apply frames_then (frames_uncharged _)
    intro argument
    exact frames_done _

theorem frames_compileArguments (spec : ToolWireSpec)
    (capabilities : ConstraintCompilerCapabilities) (prepared : PreparedTool)
    (schemas : List (PyStr × JsonObject)) (mode : ToolConstraintMode) (fallback : Bool)
    (envelope : HardEnvelopeBudget) (names : List (PyStr × Nat)) :
    Frames SameLimits
      (compileArguments libraries spec capabilities prepared schemas mode fallback envelope
        names) := by
  induction names generalizing envelope with
  | nil => exact frames_done _
  | cons entry names induction =>
      rw [compileArguments]
      apply frames_then (frames_compileNextArgument _ _ _ _ _ _ _ _ _)
      intro compiled
      apply frames_then (induction _)
      intro rest
      exact frames_done _

theorem frames_compileSemantics (envelope : HardEnvelopeBudget) (tools : List PreparedTool) :
    Frames SameLimits (compileSemantics libraries request envelope tools) := by
  induction tools generalizing envelope with
  | nil => exact frames_done _
  | cons prepared tools induction =>
      rw [compileSemantics]
      apply frames_then (frames_uncharged _)
      intro mode
      apply frames_then
      · rw [compileToolSemantics]
        apply frames_then (frames_uncharged _)
        intro resolved
        apply frames_then (frames_compileArguments _ _ _ _ _ _ _ _)
        intro compiled
        exact frames_done _
      intro compiled
      apply frames_then (induction _)
      intro rest
      exact frames_done _

theorem frames_minimalSemantics (exposed : List ExposedTool) :
    Frames SameLimits (minimalSemantics libraries request exposed) := by
  rw [minimalSemantics]
  apply frames_then (frames_prepareTools _ _ _ _)
  intro prepared
  exact frames_compileSemantics _ _

end Frames

/-! ## What stage B makes of a tool -/

theorem demand_eq_ok {condition : Bool} {failure : CompileFailure} {value : Unit}
    (met : demand condition failure = .ok value) : condition = true := by
  rw [demand] at met
  split at met
  · assumption
  · cases met

def nameOf : JsonValue → Option PyStr
  | .str name => some name
  | _ => none

def requiredNamesOf (tool : ExposedTool) : List PyStr :=
  match getOr tool.parameters.document (py "required") (.list []) with
  | .list values => values.filterMap nameOf
  | _ => []

def propertyNamesOf (tool : ExposedTool) : List PyStr :=
  match getOr tool.parameters.document (py "properties") (.dict []) with
  | .dict properties => properties.map Prod.fst
  | _ => []

def WireRequired (spec : ToolWireSpec) (tool : ExposedTool) (name : PyStr) : Prop :=
  name ∈ requiredNamesOf tool ∨
    spec.occurrence.optionalOmission = false ∧ name ∈ propertyNamesOf tool

theorem stringNames_eq_some {values : List JsonValue} {names : List PyStr}
    (read : stringNames values = some names) : names = values.filterMap nameOf := by
  rw [stringNames] at read
  induction values generalizing names with
  | nil =>
      cases read
      rfl
  | cons value values induction =>
      rw [List.mapM_cons] at read
      cases value with
      | str name =>
          rcases Option.bind_eq_some_iff.mp read with ⟨found, same, read⟩
          rcases Option.bind_eq_some_iff.mp read with ⟨others, rest, read⟩
          cases same
          cases read
          rw [induction rest]
          rfl
      | null | bool | int | float | list | dict => cases read

theorem checkRequired_eq_ok {failure : CompileFailure} {values : List JsonValue}
    {names : List PyStr} (checked : checkRequired failure values = .ok names) :
    names = values.filterMap nameOf := by
  induction values generalizing names with
  | nil =>
      cases checked
      rfl
  | cons value values induction =>
      cases value with
      | str name =>
          rw [checkRequired] at checked
          rcases bind_eq_ok checked with ⟨_, _, checked⟩
          rcases bind_eq_ok checked with ⟨others, rest, checked⟩
          cases checked
          rw [induction rest]
          rfl
      | null | bool | int | float | list | dict => cases checked

theorem objectSchemas_eq_some {entries : JsonObject} {schemas : List (PyStr × JsonObject)}
    (read : objectSchemas entries = some schemas) :
    schemas.map Prod.fst = List.map Prod.fst entries := by
  rw [objectSchemas] at read
  induction entries generalizing schemas with
  | nil =>
      cases read
      rfl
  | cons entry entries induction =>
      rw [List.mapM_cons] at read
      rcases Option.bind_eq_some_iff.mp read with ⟨found, same, read⟩
      rcases Option.bind_eq_some_iff.mp read with ⟨others, rest, read⟩
      cases read
      split at same
      · cases same
        rw [List.map_cons, List.map_cons, induction rest]
      · cases same

theorem requiredNames_eq_ok {spec : ToolWireSpec} {tool : ExposedTool} {values : List JsonValue}
    {order names : List PyStr} (read : requiredNames spec tool values order = .ok names) :
    names = values.filterMap nameOf := by
  rw [requiredNames] at read
  split at read
  · exact checkRequired_eq_ok read
  · rcases bind_eq_ok read with ⟨_, _, read⟩
    split at read
    · rename_i listed
      cases read
      exact stringNames_eq_some listed
    · cases read

theorem declaredRequired_eq_ok {tool : ExposedTool} {schema : JsonObject}
    {values : List JsonValue} (read : declaredRequired tool schema = .ok values) :
    getOr schema (py "required") (.list []) = .list values := by
  rw [declaredRequired] at read
  split at read
  · rename_i listed
    cases read
    exact listed
  · cases read

theorem declaredProperties_eq_ok {tool : ExposedTool} {schema properties : JsonObject}
    (read : declaredProperties tool schema = .ok properties) :
    getOr schema (py "properties") (.dict []) = .dict properties := by
  rw [declaredProperties] at read
  split at read
  · rename_i mapped
    cases read
    exact mapped
  · cases read

theorem propertySchemas_eq_ok {tool : ExposedTool} {properties : JsonObject}
    {schemas : List (PyStr × JsonObject)} (read : propertySchemas tool properties = .ok schemas) :
    schemas.map Prod.fst = List.map Prod.fst properties := by
  rw [propertySchemas] at read
  split at read
  · rename_i parsed
    cases read
    exact objectSchemas_eq_some parsed
  · cases read

structure PreparedFor (tool : ExposedTool) (prepared : PreparedTool) : Prop where
  required : prepared.requiredNames = requiredNamesOf tool
  properties : prepared.propertyNames = propertyNamesOf tool
  sameTool : prepared.tool = tool
  ordered : ∀ name ∈ prepared.propertyNames, name ∈ prepared.orderEvidence
  declared : ∀ name ∈ prepared.requiredNames, name ∈ prepared.propertyNames

theorem PreparedFor.wireRequired {spec : ToolWireSpec} {tool : ExposedTool}
    {prepared : PreparedTool} (whole : PreparedFor tool prepared) {name : PyStr}
    (required : WireRequired spec tool name) :
    name ∈ prepared.orderEvidence.filter (ToolWire.wireRequired spec prepared.requiredNames) := by
  rw [List.mem_filter]
  cases required with
  | inl named =>
      rw [← whole.required] at named
      exact ⟨whole.ordered name (whole.declared name named), by
        simp [ToolWire.wireRequired, named]⟩
  | inr every =>
      exact ⟨whole.ordered name (whole.properties ▸ every.2), by
        simp [ToolWire.wireRequired, every.1]⟩

theorem prepareToolForCompile_eq_ok {spec : ToolWireSpec} {tool : ExposedTool}
    {order : List PyStr} {prepared : PreparedTool}
    (ended : prepareToolForCompile spec tool tool.parameters.document order = .ok prepared) :
    PreparedFor tool prepared := by
  rw [prepareToolForCompile] at ended
  rcases bind_eq_ok ended with ⟨_, _, ended⟩
  rcases bind_eq_ok ended with ⟨properties, read, ended⟩
  rcases bind_eq_ok ended with ⟨required, listed, ended⟩
  rcases bind_eq_ok ended with ⟨_, _, ended⟩
  rcases bind_eq_ok ended with ⟨names, named, ended⟩
  rcases bind_eq_ok ended with ⟨_, _, ended⟩
  rcases bind_eq_ok ended with ⟨schemas, parsed, ended⟩
  rcases bind_eq_ok ended with ⟨_, ordered, ended⟩
  rcases bind_eq_ok ended with ⟨_, declared, ended⟩
  cases ended
  have ordered := demand_eq_ok ordered
  have declared := demand_eq_ok declared
  have keys := propertySchemas_eq_ok parsed
  rw [Bool.and_eq_true, Bool.and_eq_true, List.all_eq_true, List.all_eq_true] at ordered
  rw [List.isEmpty_iff, List.filter_eq_nil_iff] at declared
  constructor
  · rw [requiredNames_eq_ok named, requiredNamesOf, declaredRequired_eq_ok listed]
  · rw [propertyNamesOf, declaredProperties_eq_ok read]
    exact keys
  · rfl
  · intro name member
    simpa using ordered.1.2 name member
  · intro name member
    simpa [PreparedTool.propertyNames] using declared name member

theorem prepareTools_eq_ok {request : PlanRequest} {exposedCount aggregate : Nat}
    {envelope final : HardEnvelopeBudget} {tools : List ExposedTool}
    {prepared : List PreparedTool} {ledger next : CompileBudgetLedger}
    (ended : prepareTools request exposedCount aggregate envelope tools ledger =
      .ok (prepared, final) next) :
    List.Forall₂ PreparedFor tools prepared := by
  induction tools generalizing aggregate envelope prepared final ledger with
  | nil =>
      cases ended
      exact .nil
  | cons tool tools induction =>
      rw [prepareTools] at ended
      rcases stage_bind_eq_ok ended with ⟨⟨order, _, _⟩, _, _, ended⟩
      rcases stage_bind_eq_ok ended with ⟨_, _, _, ended⟩
      rcases stage_bind_eq_ok ended with ⟨_, _, _, ended⟩
      rcases stage_bind_eq_ok ended with ⟨first, _, made, ended⟩
      rcases stage_bind_eq_ok ended with ⟨_, _, _, ended⟩
      rcases stage_bind_eq_ok ended with ⟨_, _, _, ended⟩
      rcases stage_bind_eq_ok ended with ⟨⟨others, _⟩, _, rest, ended⟩
      cases ended
      exact .cons (prepareToolForCompile_eq_ok (uncharged_eq_ok made).1) (induction rest)

/-! ## The caches of a tool -/

/-- The tools differ in their caches only. -/
def SameTool (prepared next : PreparedTool) : Prop := next.restoreCaches prepared = prepared

namespace SameTool

theorem refl (prepared : PreparedTool) : SameTool prepared prepared := rfl

theorem trans {first second third : PreparedTool} (left : SameTool first second)
    (right : SameTool second third) : SameTool first third := by
  rw [SameTool] at left right ⊢
  rw [← left, ← right]
  rfl

theorem preparedFor {tool : ExposedTool} {prepared next : PreparedTool}
    (same : SameTool prepared next) (whole : PreparedFor tool prepared) :
    PreparedFor tool next := by
  rw [SameTool] at same
  rw [← same] at whole
  exact ⟨whole.required, whole.properties, whole.sameTool, whole.ordered, whole.declared⟩

end SameTool

/-- The envelopes differ in their schema nodes only, and there are at least as many. -/
structure NodesGrow (envelope next : HardEnvelopeBudget) : Prop where
  nodes : envelope.schemaNodesUsed ≤ next.schemaNodesUsed
  bytes : next.finiteWirePayloadBytesUsed = envelope.finiteWirePayloadBytesUsed

namespace NodesGrow

theorem refl (envelope : HardEnvelopeBudget) : NodesGrow envelope envelope := ⟨le_rfl, rfl⟩

theorem trans {first second third : HardEnvelopeBudget} (left : NodesGrow first second)
    (right : NodesGrow second third) : NodesGrow first third :=
  ⟨left.nodes.trans right.nodes, right.bytes.trans left.bytes⟩

end NodesGrow

theorem consumeSchemaNodes_eq_ok {envelope next : HardEnvelopeBudget} {nodes : Nat}
    (consumed : envelope.consumeSchemaNodes nodes = .ok next) :
    next.schemaNodesUsed = envelope.schemaNodesUsed + nodes ∧ NodesGrow envelope next := by
  rw [HardEnvelopeBudget.consumeSchemaNodes] at consumed
  split at consumed
  · cases consumed
    exact ⟨rfl, Nat.le_add_right _ _, rfl⟩
  · cases consumed

section Semantics

variable {π : Type} {libraries : PlanLibraries π}

/-- A resolution changes the caches of the tool, and may take schema nodes. -/
theorem resolvedPreparedPropertySchema_eq_ok {prepared next : PreparedTool} {name : PyStr}
    {envelope charged : HardEnvelopeBudget} {schema : JsonObject}
    (ended : resolvedPreparedPropertySchema libraries prepared name envelope =
      .ok (schema, next, charged)) :
    SameTool prepared next ∧ NodesGrow envelope charged := by
  rw [resolvedPreparedPropertySchema] at ended
  split at ended
  · cases ended
    exact ⟨rfl, .refl _⟩
  · split at ended
    · cases ended
    · split at ended
      · cases ended
        exact ⟨rfl, .refl _⟩
      · dsimp only at ended
        split at ended
        · cases ended
          exact ⟨rfl, .refl _⟩
        · rcases bind_eq_ok ended with ⟨resolved, _, ended⟩
          split at ended
          · cases ended
            exact ⟨rfl, .refl _⟩
          · rcases bind_eq_ok ended with ⟨nodes, _, ended⟩
            rcases bind_eq_ok ended with ⟨after, consumed, ended⟩
            cases ended
            exact ⟨rfl, (consumeSchemaNodes_eq_ok consumed).2⟩
          · cases ended

theorem resolveSchemas_eq_ok {prepared next : PreparedTool} {names : List PyStr}
    {envelope charged : HardEnvelopeBudget} {schemas : List (PyStr × JsonObject)}
    (ended : resolveSchemas libraries prepared envelope names = .ok (schemas, next, charged)) :
    SameTool prepared next := by
  induction names generalizing prepared envelope schemas with
  | nil =>
      cases ended
      exact .refl _
  | cons name names induction =>
      rw [resolveSchemas] at ended
      rcases bind_eq_ok ended with ⟨⟨_, between, _⟩, first, ended⟩
      rcases bind_eq_ok ended with ⟨⟨_, _, _⟩, rest, ended⟩
      cases ended
      exact (resolvedPreparedPropertySchema_eq_ok first).1.trans (induction rest)

/-! ## The semantics of a tool -/

structure NamedArgument (name : PyStr) (onWire : Bool) (argument : ArgumentBranchPlan) : Prop where
  name : argument.name = name
  onWire : argument.wireRequired = onWire

theorem branchArgument_eq_ok {name : PyStr} {required onWire : Bool} {schemaJson : PyStr}
    {index : Nat} {proof : ArgumentProof} {argument : ArgumentBranchPlan}
    (ended : branchArgument name required onWire schemaJson index proof = .ok argument) :
    NamedArgument name onWire argument := by
  rw [branchArgument] at ended
  split at ended
  · split at ended
    · cases ended
      exact ⟨rfl, rfl⟩
    · cases ended
  · cases ended

theorem compileArgument_eq_ok {spec : ToolWireSpec}
    {capabilities : ConstraintCompilerCapabilities} {name : PyStr} {schema : JsonObject}
    {required onWire fallback : Bool} {index : Nat} {mode : ToolConstraintMode} {limit : Int}
    {argument : ArgumentBranchPlan}
    (ended : compileArgument libraries spec capabilities name schema required onWire index mode
      limit fallback = .ok argument) :
    NamedArgument name onWire argument := by
  rw [compileArgument] at ended
  rcases bind_eq_ok ended with ⟨proof, _, ended⟩
  exact branchArgument_eq_ok ended

theorem compileNextArgument_eq_ok {spec : ToolWireSpec}
    {capabilities : ConstraintCompilerCapabilities} {prepared : PreparedTool}
    {schemas : List (PyStr × JsonObject)} {mode : ToolConstraintMode} {fallback : Bool}
    {envelope after : HardEnvelopeBudget} {name : PyStr} {index : Nat}
    {ledger next : CompileBudgetLedger} {argument : ArgumentBranchPlan}
    (ended : compileNextArgument libraries spec capabilities prepared schemas mode fallback envelope
      name index ledger = .ok (argument, after) next) :
    NamedArgument name (wireRequired spec prepared.requiredNames name) argument := by
  rw [compileNextArgument] at ended
  split at ended
  · rename_i onWire
    rcases stage_bind_eq_ok ended with ⟨made, _, compiled, ended⟩
    rcases stage_bind_eq_ok ended with ⟨_, _, _, ended⟩
    rcases stage_bind_eq_ok ended with ⟨_, _, _, ended⟩
    rcases stage_bind_eq_ok ended with ⟨_, _, _, ended⟩
    cases ended
    have compiled := (uncharged_eq_ok compiled).1
    split at compiled
    · cases compiled
    · rw [onWire]
      exact compileArgument_eq_ok compiled
  · rename_i onWire
    rcases stage_bind_eq_ok ended with ⟨made, _, compiled, ended⟩
    cases ended
    have compiled := (uncharged_eq_ok compiled).1
    split at compiled
    · cases compiled
    · rw [Bool.not_eq_true] at onWire
      rw [onWire]
      exact branchArgument_eq_ok compiled

theorem compileArguments_eq_ok {spec : ToolWireSpec}
    {capabilities : ConstraintCompilerCapabilities} {prepared : PreparedTool}
    {schemas : List (PyStr × JsonObject)} {mode : ToolConstraintMode} {fallback : Bool}
    {envelope after : HardEnvelopeBudget} {names : List (PyStr × Nat)}
    {ledger next : CompileBudgetLedger} {arguments : List ArgumentBranchPlan}
    (ended : compileArguments libraries spec capabilities prepared schemas mode fallback envelope
      names ledger = .ok (arguments, after) next) :
    List.Forall₂ (fun entry argument => NamedArgument entry.1
      (wireRequired spec prepared.requiredNames entry.1) argument) names arguments := by
  induction names generalizing envelope ledger arguments with
  | nil =>
      cases ended
      exact .nil
  | cons entry names induction =>
      rw [compileArguments] at ended
      rcases stage_bind_eq_ok ended with ⟨⟨first, _⟩, _, compiled, ended⟩
      rcases stage_bind_eq_ok ended with ⟨⟨others, _⟩, _, rest, ended⟩
      cases ended
      exact .cons (compileNextArgument_eq_ok compiled) (induction rest)

structure SemanticsFor (spec : ToolWireSpec) (tool : ExposedTool)
    (semantics : CompiledToolSemantics) : Prop where
  prepared : PreparedFor tool semantics.prepared
  arguments : List.Forall₂ (fun name argument => NamedArgument name
    (wireRequired spec semantics.prepared.requiredNames name) argument)
    semantics.prepared.orderEvidence semantics.arguments
  onWire : semantics.wireRequiredNames =
    semantics.prepared.orderEvidence.filter (wireRequired spec semantics.prepared.requiredNames)
  noCandidates : semantics.optionalArgumentCandidates = .empty

theorem namesOnWire {names : List PyStr} {arguments : List ArgumentBranchPlan}
    {onWire : PyStr → Bool}
    (named : List.Forall₂ (fun name argument => NamedArgument name (onWire name) argument)
      names arguments) :
    (arguments.filter ArgumentBranchPlan.wireRequired).map ArgumentBranchPlan.name =
      names.filter onWire := by
  induction named with
  | nil => rfl
  | @cons name argument names arguments head tail induction =>
      rw [List.filter_cons, List.filter_cons, head.onWire]
      split
      · rw [List.map_cons, head.name, induction]
      · exact induction

theorem compileToolSemantics_eq_ok {spec : ToolWireSpec}
    {capabilities : ConstraintCompilerCapabilities} {tool : ExposedTool} {prepared : PreparedTool}
    {mode : ToolConstraintMode} {envelope after : HardEnvelopeBudget} {fallback : Bool}
    {ledger next : CompileBudgetLedger} {semantics : CompiledToolSemantics}
    (whole : PreparedFor tool prepared)
    (ended : compileToolSemantics libraries spec capabilities prepared mode envelope fallback
      ledger = .ok (semantics, after) next) :
    SemanticsFor spec tool semantics := by
  rw [compileToolSemantics] at ended
  rcases stage_bind_eq_ok ended with ⟨⟨schemas, resolved, _⟩, _, made, ended⟩
  rcases stage_bind_eq_ok ended with ⟨⟨arguments, _⟩, _, compiled, ended⟩
  cases ended
  have same := resolveSchemas_eq_ok (uncharged_eq_ok made).1
  have paired := compileArguments_eq_ok compiled
  have named : List.Forall₂ (fun name argument => NamedArgument name
      (wireRequired spec resolved.requiredNames name) argument) resolved.orderEvidence
      arguments := by
    rw [← List.zipIdx_map_fst 0 resolved.orderEvidence, List.forall₂_map_left_iff]
    exact paired
  exact ⟨same.preparedFor whole, named, namesOnWire named, rfl⟩

theorem compileSemantics_eq_ok {request : PlanRequest} {envelope after : HardEnvelopeBudget}
    {tools : List ExposedTool} {prepared : List PreparedTool} {ledger next : CompileBudgetLedger}
    {semantics : List CompiledToolSemantics} (whole : List.Forall₂ PreparedFor tools prepared)
    (ended : compileSemantics libraries request envelope prepared ledger =
      .ok (semantics, after) next) :
    List.Forall₂ (SemanticsFor request.spec) tools semantics := by
  induction whole generalizing envelope ledger semantics with
  | nil =>
      cases ended
      exact .nil
  | cons head tail induction =>
      rw [compileSemantics] at ended
      rcases stage_bind_eq_ok ended with ⟨_, _, _, ended⟩
      rcases stage_bind_eq_ok ended with ⟨⟨first, _⟩, _, compiled, ended⟩
      rcases stage_bind_eq_ok ended with ⟨⟨others, _⟩, _, rest, ended⟩
      cases ended
      exact .cons (compileToolSemantics_eq_ok head compiled) (induction rest)

theorem minimalSemantics_eq_ok {request : PlanRequest} {exposed : List ExposedTool}
    {after : HardEnvelopeBudget} {ledger next : CompileBudgetLedger}
    {semantics : List CompiledToolSemantics}
    (ended : minimalSemantics libraries request exposed ledger = .ok (semantics, after) next) :
    List.Forall₂ (SemanticsFor request.spec) exposed semantics ∧ SameLimits ledger next := by
  have kept := frames_minimalSemantics exposed _ _ _ ended
  rw [minimalSemantics] at ended
  rcases stage_bind_eq_ok ended with ⟨⟨prepared, _⟩, _, made, ended⟩
  exact ⟨compileSemantics_eq_ok (prepareTools_eq_ok made) ended, kept⟩

end Semantics

end ExQServe.ToolWire
