import ExQServe.Agent.Tools
import ExQServe.Core.Items

/-! # Validation of tool calls

The model of `agent/validation.py`: the calls of one assistant turn, and the calls and
results of a history. The violations of a schema come from another package. Of the standard
library, which of its two exceptions the strict parser raises, with its text, how deep its
decoder goes and the `repr` of a string are taken as they are. -/

namespace ExQServe

open ExQServe.Search ExQServe.Model

inductive ValidationCode
  | invalidJson
  | duplicateJsonKey
  | jsonValueNotObject
  | schemaValidationFailed
  | undeclaredTool
  | toolCallForbidden
  | toolCallRequired
  | wrongNamedTool
  | parallelToolCallsForbidden
  | duplicateToolCallId
  | invalidToolCallOrder
  | unknownToolResult
  | duplicateToolResult
deriving DecidableEq, Repr

inductive PathPart
  | name (name : PyStr)
  | index (index : Nat)
deriving DecidableEq

structure ValidationIssue where
  code : ValidationCode
  message : PyStr
  path : List PathPart
deriving DecidableEq

structure ValidationResult where
  issues : List ValidationIssue
deriving DecidableEq

def ValidationResult.isValid (result : ValidationResult) : Bool := result.issues.isEmpty

structure ToolCallsValidation where
  result : ValidationResult
  canonicalArguments : List (Option PyStr)
deriving DecidableEq

structure SchemaViolation where
  path : List PathPart
  validator : PyStr
  message : PyStr
deriving DecidableEq

structure JsonFault where
  duplicateKey : Bool
  message : PyStr
deriving DecidableEq

structure ValidationSurroundings where
  repr : PyStr → PyStr
  /-- How many containers the decoder follows into each other. -/
  decoderDepth : Nat
  /-- What is raised for a text that the strict parser refuses. -/
  jsonFault : PyStr → JsonFault
  /-- `Draft202012Validator(schema).iter_errors(arguments)`; `none` where it raises, or where
  a blank message makes the issue raise. -/
  iterErrors : JsonObject → JsonObject → Option (List SchemaViolation)

/-! ## Schema violations in order -/

def comparePart : PathPart → PathPart → Ordering
  | .index left, .index right => compare left right
  | .index _, .name _ => .lt
  | .name _, .index _ => .gt
  | .name left, .name right => compare left right

/-- `_violation_sort_key` -/
def compareViolations (left right : SchemaViolation) : Ordering :=
  (List.compareLex comparePart left.path right.path).then
    ((compare left.validator right.validator).then (compare left.message right.message))

def schemaViolations (outside : ValidationSurroundings) (schema : JsonSchema)
    (value : JsonObject) : Option (List SchemaViolation) :=
  (outside.iterErrors schema.document value).map fun violations =>
    violations.mergeSort fun left right => (compareViolations left right).isLE

/-! ## Calls -/

/-- The issues of one call's arguments, and their canonical form when there are none. -/
def checkArguments (outside : ValidationSurroundings) (tool : FunctionTool)
    (basePath : List PathPart) (argumentsJson : PyStr) :
    Option (List ValidationIssue × Option PyStr) :=
  match parseJsonStrictWithin outside.decoderDepth argumentsJson with
  | none =>
      let fault := outside.jsonFault argumentsJson
      let code := if fault.duplicateKey then .duplicateJsonKey else .invalidJson
      some ([⟨code, fault.message, basePath ++ [.name (py "arguments")]⟩], none)
  | some (.dict arguments) =>
      (schemaViolations outside tool.parameters arguments).map fun violations =>
        (violations.map fun violation =>
          ⟨.schemaValidationFailed, violation.message,
            basePath ++ .name (py "arguments") :: violation.path⟩,
          if violations.isEmpty then some (canonicalJsonDumps (.dict arguments)) else none)
  | some _ =>
      some ([⟨.jsonValueNotObject, py "tool arguments must be a JSON object",
        basePath ++ [.name (py "arguments")]⟩], none)

/-- The body of the loop, for a call at a position behind calls with the ids `seen`. -/
def checkCall (outside : ValidationSurroundings) (policy : ToolPolicy) (seen : List PyStr)
    (position : Nat) (call : ToolCallItem) : Option (List ValidationIssue × Option PyStr) :=
  let basePath := [.name (py "calls"), .index position]
  let duplicate : List ValidationIssue :=
    if call.callId ∈ seen then
      [⟨.duplicateToolCallId, py "tool call id must be unique within the assistant turn",
        basePath ++ [.name (py "call_id")]⟩]
    else []
  let disordered : List ValidationIssue :=
    if call.index ≠ position then
      [⟨.invalidToolCallOrder, py "tool call index must match zero-based tuple order",
        basePath ++ [.name (py "index")]⟩]
    else []
  match policy.getTool call.name with
  | none =>
      some (duplicate ++ disordered ++
        [⟨.undeclaredTool, py "tool " ++ outside.repr call.name ++ py " is not declared",
          basePath ++ [.name (py "name")]⟩], none)
  | some tool =>
      let misnamed : List ValidationIssue :=
        match policy.choice.name with
        | some chosen =>
            if policy.choice.mode = .named ∧ call.name ≠ chosen then
              [⟨.wrongNamedTool, py "tool call must use named tool " ++ outside.repr chosen,
                basePath ++ [.name (py "name")]⟩]
            else []
        | none => []
      (checkArguments outside tool basePath call.argumentsJson).map fun found =>
        (duplicate ++ disordered ++ misnamed ++ found.1, found.2)

def checkCalls (outside : ValidationSurroundings) (policy : ToolPolicy) :
    List PyStr → Nat → List ToolCallItem → Option (List ValidationIssue × List (Option PyStr))
  | _, _, [] => some ([], [])
  | seen, position, call :: calls => do
      let first ← checkCall outside policy seen position call
      let rest ← checkCalls outside policy (call.callId :: seen) (position + 1) calls
      return (first.1 ++ rest.1, first.2 :: rest.2)

/-- `none` where the schema package raises. -/
def validateToolCallsWithCanonicalArguments (outside : ValidationSurroundings)
    (calls : List ToolCallItem) (policy : ToolPolicy) : Option ToolCallsValidation :=
  let callsPath := [.name (py "calls")]
  if policy.choice.mode = .none ∧ calls ≠ [] then
    some ⟨⟨[⟨.toolCallForbidden, py "tool calls are forbidden by the current policy", callsPath⟩]⟩,
      calls.map fun _ => none⟩
  else
    let required : List ValidationIssue :=
      if (policy.choice.mode = .required ∨ policy.choice.mode = .named) ∧ calls = [] then
        [⟨.toolCallRequired, py "at least one tool call is required by the current policy",
          callsPath⟩]
      else []
    let parallel : List ValidationIssue :=
      if policy.allowParallel = false ∧ 1 < calls.length then
        [⟨.parallelToolCallsForbidden, py "multiple tool calls are forbidden by the current policy",
          callsPath⟩]
      else []
    (checkCalls outside policy [] 0 calls).map fun found =>
      ⟨⟨required ++ parallel ++ found.1⟩, found.2⟩

def validateToolCalls (outside : ValidationSurroundings) (calls : List ToolCallItem)
    (policy : ToolPolicy) : Option ValidationResult :=
  (validateToolCallsWithCanonicalArguments outside calls policy).map ToolCallsValidation.result

/-! ## Histories -/

/-- The loop of `validate_tool_history`, behind calls with the ids `seen` of which those in
`resolved` have a result. -/
def historyIssues : List PyStr → List PyStr → Nat → List CanonicalItem → List ValidationIssue
  | _, _, _, [] => []
  | seen, resolved, position, item :: items =>
      let path := [.name (py "items"), .index position, .name (py "call_id")]
      let result (callId : PyStr) : List ValidationIssue :=
        if callId ∉ seen then
          ⟨.unknownToolResult, py "tool result must reference a preceding tool call", path⟩ ::
            historyIssues seen resolved (position + 1) items
        else if callId ∈ resolved then
          ⟨.duplicateToolResult, py "tool call may have at most one result", path⟩ ::
            historyIssues seen resolved (position + 1) items
        else historyIssues seen (callId :: resolved) (position + 1) items
      match item with
      | .toolCall call =>
          if call.callId ∈ seen then
            ⟨.duplicateToolCallId, py "tool call id must be unique across canonical history",
              path⟩ :: historyIssues seen resolved (position + 1) items
          else historyIssues (call.callId :: seen) resolved (position + 1) items
      | .toolResult answer => result answer.callId
      | .multimodalToolResult answer => result answer.callId
      | .message _ | .multimodalMessage _ | .reasoning _ =>
          historyIssues seen resolved (position + 1) items

def validateToolHistory (items : List CanonicalItem) : ValidationResult :=
  ⟨historyIssues [] [] 0 items⟩

def CanonicalItem.isTool : CanonicalItem → Bool
  | .toolCall _ | .toolResult _ | .multimodalToolResult _ => true
  | .message _ | .multimodalMessage _ | .reasoning _ => false

theorem historyIssues_eq_nil_iff (seen resolved : List PyStr) (position position' : Nat)
    (items : List CanonicalItem) :
    historyIssues seen resolved position items = [] ↔
      historyIssues seen resolved position' (items.filter CanonicalItem.isTool) = [] := by
  induction items generalizing seen resolved position position' with
  | nil => exact Iff.rfl
  | cons item items induction =>
      cases item with
      | message _ | multimodalMessage _ | reasoning _ => exact induction _ _ _ _
      | toolCall call =>
          rw [List.filter_cons_of_pos rfl, historyIssues, historyIssues]
          split
          · exact iff_of_false (List.cons_ne_nil _ _) (List.cons_ne_nil _ _)
          · exact induction _ _ _ _
      | toolResult answer | multimodalToolResult answer =>
          rw [List.filter_cons_of_pos rfl, historyIssues, historyIssues]
          dsimp only
          split
          · exact iff_of_false (List.cons_ne_nil _ _) (List.cons_ne_nil _ _)
          · split
            · exact iff_of_false (List.cons_ne_nil _ _) (List.cons_ne_nil _ _)
            · exact induction _ _ _ _

/-- Whether a history is valid depends on its calls and results and their order alone. -/
theorem validateToolHistory_of_same_tools {items items' : List CanonicalItem}
    (same : items.filter CanonicalItem.isTool = items'.filter CanonicalItem.isTool) :
    (validateToolHistory items).isValid = (validateToolHistory items').isValid := by
  rw [Bool.eq_iff_iff, ValidationResult.isValid, ValidationResult.isValid, List.isEmpty_iff,
    List.isEmpty_iff, validateToolHistory, validateToolHistory,
    historyIssues_eq_nil_iff [] [] 0 0 items, same, ← historyIssues_eq_nil_iff [] [] 0 0 items']

/-! ## What a valid list of calls satisfies -/

theorem not_mem_of_checkCall {outside : ValidationSurroundings} {policy : ToolPolicy}
    {seen : List PyStr} {position : Nat} {call : ToolCallItem} {canonical : Option PyStr}
    (clean : checkCall outside policy seen position call = some ([], canonical)) :
    call.callId ∉ seen := by
  intro repeated
  rw [checkCall] at clean
  dsimp only at clean
  rw [if_pos repeated] at clean
  cases found : policy.getTool call.name with
  | none =>
      rw [found] at clean
      cases clean
  | some tool =>
      rw [found] at clean
      rcases Option.map_eq_some_iff.mp clean with ⟨arguments, _, equal⟩
      cases congrArg Prod.fst equal

/-- Calls without an issue behind calls with the ids `seen` have new ids that differ. -/
theorem nodup_of_checkCalls {outside : ValidationSurroundings} {policy : ToolPolicy}
    {seen : List PyStr} {position : Nat} {calls : List ToolCallItem}
    {canonical : List (Option PyStr)}
    (clean : checkCalls outside policy seen position calls = some ([], canonical)) :
    (calls.map ToolCallItem.callId).Nodup ∧ ∀ call ∈ calls, call.callId ∉ seen := by
  induction calls generalizing seen position canonical with
  | nil => exact ⟨List.nodup_nil, fun call inside => absurd inside List.not_mem_nil⟩
  | cons call calls induction =>
      simp only [checkCalls, Option.bind_eq_bind, Option.bind_eq_some_iff] at clean
      rcases clean with ⟨first, checked, rest, restChecked, equal⟩
      cases first with
      | mk firstIssues firstCanonical =>
      cases rest with
      | mk restIssues restCanonical =>
      have issues : firstIssues ++ restIssues = [] := congrArg Prod.fst (Option.some.inj equal)
      rcases List.append_eq_nil_iff.mp issues with ⟨rfl, rfl⟩
      rcases induction restChecked with ⟨nodup, fresh⟩
      have new := not_mem_of_checkCall checked
      constructor
      · rw [List.map_cons, List.nodup_cons]
        refine ⟨?_, nodup⟩
        intro again
        rcases List.mem_map.mp again with ⟨other, inside, same⟩
        exact fresh other inside (same ▸ List.mem_cons_self)
      · intro other inside
        rcases List.mem_cons.mp inside with rfl | inside
        · exact new
        · exact fun old => fresh other inside (List.mem_cons_of_mem _ old)

/-- Valid calls have distinct ids. -/
theorem nodup_of_valid {outside : ValidationSurroundings} {policy : ToolPolicy}
    {calls : List ToolCallItem} {validation : ToolCallsValidation}
    (validated : validateToolCallsWithCanonicalArguments outside calls policy = some validation)
    (valid : validation.result.isValid = true) : (calls.map ToolCallItem.callId).Nodup := by
  rw [validateToolCallsWithCanonicalArguments] at validated
  dsimp only at validated
  split at validated
  · cases validated
    cases valid
  · rcases Option.map_eq_some_iff.mp validated with ⟨found, checked, rfl⟩
    rcases found with ⟨issues, canonical⟩
    have none : issues = [] := by
      simp only [ValidationResult.isValid, List.isEmpty_iff, List.append_eq_nil_iff] at valid
      exact valid.2
    subst none
    exact (nodup_of_checkCalls checked).1

end ExQServe
