import ExQServe.Foundation.Failing
import ExQServe.Model.ToolConstraints

/-! # Detaching a property schema

The model of `qwen_property_schema` in `model/tool_constraints.py`: a property schema is taken
out of its document, and the root definitions that it refers to are put in place of the
references. Where the code returns a value because none of its children has changed, that value
equals the rebuilt one. -/

namespace ExQServe.Model

open ExQServe.Search ExQServe.Failing

structure ResolutionLimits where
  nodes : Option Nat
  depth : Option Nat
deriving DecidableEq

inductive ResolutionFailure
  | assertion
  | sharedRefExpansion
  | nodeLimit
  | depthLimit
  | toolConstraintUnsupported (message : String)
deriving DecidableEq

structure ResolutionState where
  expandedRefs : List PyStr
  observedDetachedNodes : Nat
deriving DecidableEq

namespace ResolutionState

def empty : ResolutionState := ⟨[], 0⟩

def expand (state : ResolutionState) (ref : PyStr) : ResolutionState :=
  { state with expandedRefs := ref :: state.expandedRefs }

end ResolutionState

abbrev Resolution := EStateM ResolutionFailure ResolutionState

def observeNode (limits : ResolutionLimits) (detached : Bool) (outputDepth : Nat) :
    Resolution Unit := fun state =>
  if detached then
    match limits.nodes with
    | some nodeLimit =>
        if state.observedDetachedNodes ≥ nodeLimit then .error .nodeLimit state
        else checkDepth { state with observedDetachedNodes := state.observedDetachedNodes + 1 }
    | none => checkDepth state
  else .ok () state
where
  checkDepth : Resolution Unit := fun state =>
    match limits.depth with
    | some depthLimit => if outputDepth > depthLimit then .error .depthLimit state else .ok () state
    | none => .ok () state

/-- The reference of a schema that says nothing else but annotations. -/
def pureLocalRef (schema : JsonObject) : Option PyStr :=
  match schema.get? (py "$ref") with
  | some (.str ref) =>
      if isLocalDefinitionRef ref ∧ semanticSiblings schema = [] then some ref else none
  | _ => none

/-- The annotations of the reference that the target does not have. The code takes their keys
from a set; this is one of its orders. -/
def addedAnnotations (current expanded : JsonObject) : JsonObject :=
  qwenRefAnnotationKeys.filterMap fun key =>
    if (expanded.get? key).isSome then none else (current.get? key).map fun value => (key, value)

/-- The definition that takes the place of a schema, if one does. -/
inductive Expansion
  | keep
  | children
  | target (ref : PyStr) (definition : JsonObject)

def expansionOf (rootSchema : JsonObject) (activeRefs : List PyStr) (current : JsonObject) :
    Resolution Expansion := fun state =>
  match pureLocalRef current with
  | none => .ok .children state
  | some ref =>
      if activeRefs.contains ref then .ok .keep state
      else if state.expandedRefs.contains ref then .error .sharedRefExpansion state
      else
        match resolveQwenRootPointer rootSchema ref with
        | some (.dict definition) => .ok (.target ref definition) (state.expand ref)
        | _ => .ok .children state

def resolveMembers (child : JsonValue → Resolution JsonValue) (entries : JsonObject) :
    Resolution JsonValue := do
  return .dict (← entries.mapM fun entry => do return (entry.1, ← child entry.2))

/-- The `resolve` of `_resolve_qwen_property_refs`; `remaining` is what is left of the depth
up to the expansion limit. -/
def resolve (limits : ResolutionLimits) (rootSchema : JsonObject) :
    Nat → List PyStr → Bool → Nat → JsonValue → Resolution JsonValue
  | 0, _, detached, outputDepth, current => do
      observeNode limits detached outputDepth
      return current
  | remaining + 1, activeRefs, detached, outputDepth, current => do
      observeNode limits detached outputDepth
      let child := resolve limits rootSchema remaining activeRefs detached (outputDepth + 1)
      match current with
      | .list items => return .list (← items.mapM child)
      | .dict entries =>
          match ← expansionOf rootSchema activeRefs entries with
          | .keep => return .dict entries
          | .children => resolveMembers child entries
          | .target ref definition =>
              match ← resolve limits rootSchema remaining (ref :: activeRefs) true outputDepth
                (.dict definition) with
              | .dict expanded => return .dict (expanded ++ addedAnnotations entries expanded)
              | _ => resolveMembers child entries
      | other => return other

def resolveQwenPropertyRefs (limits : ResolutionLimits) (rootSchema propertySchema : JsonObject) :
    Resolution JsonValue :=
  resolve limits rootSchema (qwenRefExpansionLimit + 1) [] false 1 (.dict propertySchema)

def definitionsAreObject (rootSchema : JsonObject) (key : PyStr) : Bool :=
  match rootSchema.get? key with
  | none | some .null | some (.dict _) => true
  | some _ => false

def qwenPropertySchema (limits : ResolutionLimits) (rootSchema propertySchema : JsonObject) :
    Except ResolutionFailure JsonObject :=
  if !definitionsAreObject rootSchema (py "$defs") then
    .error (.toolConstraintUnsupported "top-level $defs must be an object")
  else if !definitionsAreObject rootSchema (py "definitions") then
    .error (.toolConstraintUnsupported "top-level definitions must be an object")
  else
    match resolveQwenPropertyRefs limits rootSchema propertySchema .empty with
    | .ok (.dict resolved) _ => .ok resolved
    | .ok _ _ => .error .assertion
    | .error .sharedRefExpansion _ => .ok propertySchema
    | .error failure _ => .error failure

/-! ## What a resolution has done -/

/-- The ways in which a resolution ends without a failure, one for each value it can meet, when
`inner` holds of what is resolved below. -/
inductive ResolvedBy (rootSchema : JsonObject)
    (inner : List PyStr → JsonValue → JsonValue → Prop) (activeRefs : List PyStr) :
    JsonValue → JsonValue → Prop
  | atom {current : JsonValue} (noList : ∀ items, current ≠ .list items)
      (noDict : ∀ entries, current ≠ .dict entries) :
      ResolvedBy rootSchema inner activeRefs current current
  | list {items outputs : List JsonValue}
      (children : List.Forall₂ (inner activeRefs) items outputs) :
      ResolvedBy rootSchema inner activeRefs (.list items) (.list outputs)
  | cycle {entries : JsonObject} {ref : PyStr} (pure : pureLocalRef entries = some ref)
      (active : activeRefs.contains ref = true) :
      ResolvedBy rootSchema inner activeRefs (.dict entries) (.dict entries)
  | target {entries definition expanded : JsonObject} {ref : PyStr}
      (pure : pureLocalRef entries = some ref) (inactive : activeRefs.contains ref = false)
      (points : resolveQwenRootPointer rootSchema ref = some (.dict definition))
      (inside : inner (ref :: activeRefs) (.dict definition) (.dict expanded)) :
      ResolvedBy rootSchema inner activeRefs (.dict entries)
        (.dict (expanded ++ addedAnnotations entries expanded))
  | dict {entries outputs : JsonObject}
      (untargeted : ∀ ref, pureLocalRef entries = some ref → activeRefs.contains ref = false ∧
        ∀ definition, resolveQwenRootPointer rootSchema ref ≠ some (.dict definition))
      (children : List.Forall₂ (fun entry output => entry.1 = output.1 ∧
        inner activeRefs entry.2 output.2) entries outputs) :
      ResolvedBy rootSchema inner activeRefs (.dict entries) (.dict outputs)

/-- What a resolution within `remaining` levels makes of a value. -/
def Resolved (rootSchema : JsonObject) : Nat → List PyStr → JsonValue → JsonValue → Prop
  | 0, _, current, output => output = current
  | remaining + 1, activeRefs, current, output =>
      ResolvedBy rootSchema (Resolved rootSchema remaining) activeRefs current output

section Inversion

variable {limits : ResolutionLimits} {rootSchema : JsonObject} {activeRefs : List PyStr}
  {entries : JsonObject} {state final : ResolutionState}

theorem expansionOf_keep
    (ended : expansionOf rootSchema activeRefs entries state = .ok .keep final) :
    ∃ ref, pureLocalRef entries = some ref ∧ activeRefs.contains ref = true := by
  rw [expansionOf] at ended
  split at ended
  · cases ended
  · rename_i ref pure
    split at ended
    · rename_i active
      exact ⟨ref, pure, active⟩
    · split at ended
      · cases ended
      · split at ended
        · cases ended
        · cases ended

theorem expansionOf_target {ref : PyStr} {definition : JsonObject}
    (ended : expansionOf rootSchema activeRefs entries state = .ok (.target ref definition) final) :
    pureLocalRef entries = some ref ∧ activeRefs.contains ref = false ∧
      resolveQwenRootPointer rootSchema ref = some (.dict definition) := by
  rw [expansionOf] at ended
  split at ended
  · cases ended
  · rename_i found pure
    split at ended
    · cases ended
    · rename_i inactive
      split at ended
      · cases ended
      · split at ended
        · rename_i target points
          cases ended
          exact ⟨pure, Bool.eq_false_iff.mpr inactive, points⟩
        · cases ended

theorem expansionOf_children
    (ended : expansionOf rootSchema activeRefs entries state = .ok .children final) :
    ∀ ref, pureLocalRef entries = some ref → activeRefs.contains ref = false ∧
      ∀ definition, resolveQwenRootPointer rootSchema ref ≠ some (.dict definition) := by
  intro ref pure
  rw [expansionOf, pure] at ended
  dsimp only at ended
  split at ended
  · cases ended
  · rename_i inactive
    split at ended
    · cases ended
    · split at ended
      · cases ended
      · rename_i otherwise
        exact ⟨Bool.eq_false_iff.mpr inactive, fun definition points => otherwise definition points⟩

theorem resolveMembers_ok {child : JsonValue → Resolution JsonValue} {output : JsonValue}
    (ended : resolveMembers child entries state = .ok output final) :
    ∃ outputs, output = .dict outputs ∧
      List.Forall₂ (fun entry output => entry.1 = output.1 ∧
        ∃ before after, child entry.2 before = .ok output.2 after) entries outputs := by
  rcases stage_bind_eq_ok ended with ⟨outputs, _, mapped, returned⟩
  cases returned
  refine ⟨outputs, rfl, (stage_mapM_eq_ok mapped).imp ?_⟩
  rintro entry output ⟨before, _, ended⟩
  rcases stage_bind_eq_ok ended with ⟨value, _, inner, returned⟩
  cases returned
  exact ⟨rfl, before, _, inner⟩

theorem Resolved.of_dict {remaining : Nat} {output : JsonValue}
    (resolved : Resolved rootSchema remaining activeRefs (.dict entries) output) :
    ∃ outputs, output = .dict outputs := by
  cases remaining with
  | zero => exact ⟨entries, resolved⟩
  | succ remaining =>
      cases resolved with
      | atom _ noDict => exact absurd rfl (noDict entries)
      | cycle => exact ⟨entries, rfl⟩
      | target => exact ⟨_, rfl⟩
      | dict => exact ⟨_, rfl⟩

/-- A resolution that has ended has done what one of its cases says. -/
theorem resolve_resolved {remaining : Nat} {detached : Bool} {outputDepth : Nat}
    {current output : JsonValue}
    (ended : resolve limits rootSchema remaining activeRefs detached outputDepth current state =
      .ok output final) :
    Resolved rootSchema remaining activeRefs current output := by
  induction remaining generalizing activeRefs detached outputDepth current output state final with
  | zero =>
      rcases stage_bind_eq_ok ended with ⟨_, _, _, returned⟩
      cases returned
      rfl
  | succ remaining induction =>
      rcases stage_bind_eq_ok ended with ⟨_, observed, _, ended⟩
      cases current with
      | null | bool | int | float | str =>
          cases ended
          exact .atom (by simp) (by simp)
      | list items =>
          rcases stage_bind_eq_ok ended with ⟨outputs, _, mapped, returned⟩
          cases returned
          exact .list ((stage_mapM_eq_ok mapped).imp fun item output ⟨_, _, ended⟩ =>
            induction ended)
      | dict entries =>
          rcases stage_bind_eq_ok ended with ⟨expansion, between, expanded, ended⟩
          cases expansion with
          | keep =>
              cases ended
              rcases expansionOf_keep expanded with ⟨ref, pure, active⟩
              exact .cycle pure active
          | children =>
              rcases resolveMembers_ok ended with ⟨outputs, rfl, children⟩
              refine .dict (expansionOf_children expanded) (children.imp ?_)
              rintro entry output ⟨same, _, _, inner⟩
              exact ⟨same, induction inner⟩
          | target ref definition =>
              rcases expansionOf_target expanded with ⟨pure, inactive, points⟩
              rcases stage_bind_eq_ok ended with ⟨inner, after, resolved, ended⟩
              rcases (induction resolved).of_dict with ⟨result, rfl⟩
              cases ended
              exact .target pure inactive points (induction resolved)

end Inversion

end ExQServe.Model
