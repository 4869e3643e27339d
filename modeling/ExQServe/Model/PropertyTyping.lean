import ExQServe.Model.PropertyResolution

/-! # The type of a property, read and resolved

The decoder asks `qwen_property_schema_type` whether a property is a string, and the grammar is
generated from what `qwen_property_schema` has resolved. -/

namespace ExQServe.Model

open ExQServe.Search ExQServe.Failing

/-! ## Members -/

theorem get?_append (first second : JsonObject) (key : PyStr) :
    JsonObject.get? (first ++ second) key = (first.get? key).or (second.get? key) := by
  rw [JsonObject.get?, List.find?_append, Option.map_or]
  rfl

theorem get?_eq_none_of_not_mem {entries : JsonObject} {key : PyStr} (absent : key ∉ entries.keys) :
    entries.get? key = none := by
  rw [JsonObject.get?, Option.map_eq_none_iff, List.find?_eq_none]
  intro entry member same
  exact absent (List.mem_map.mpr ⟨entry, member, of_decide_eq_true same⟩)

theorem mem_keys_of_get? {entries : JsonObject} {key : PyStr} {value : JsonValue}
    (found : entries.get? key = some value) : key ∈ entries.keys := by
  by_contra absent
  rw [get?_eq_none_of_not_mem absent] at found
  cases found

/-- The members of two objects with the same keys are related when their entries are. -/
theorem get?_forall₂ {relation : JsonValue → JsonValue → Prop} {entries outputs : JsonObject}
    (related : List.Forall₂ (fun entry output => entry.1 = output.1 ∧ relation entry.2 output.2)
      entries outputs) (key : PyStr) :
    Option.Rel relation (entries.get? key) (outputs.get? key) := by
  induction related with
  | nil => exact .none
  | @cons entry output entries outputs here tail induction =>
      rw [JsonObject.get?, JsonObject.get?]
      by_cases same : entry.1 = key
      · rw [List.find?_cons_of_pos (by simpa using same),
          List.find?_cons_of_pos (by simpa using here.1.symm.trans same)]
        exact .some here.2
      · rw [List.find?_cons_of_neg (by simpa using same),
          List.find?_cons_of_neg (by simpa [← here.1] using same)]
        exact induction

/-! ## References that stand alone -/

theorem pureLocalRef_eq_some {schema : JsonObject} {ref : PyStr} :
    pureLocalRef schema = some ref ↔ schema.get? (py "$ref") = some (.str ref) ∧
      isLocalDefinitionRef ref = true ∧ semanticSiblings schema = [] := by
  rw [pureLocalRef]
  constructor
  · intro pure
    split at pure
    · rename_i found stands
      split at pure
      · rename_i alone
        cases pure
        exact ⟨stands, alone⟩
      · cases pure
    · cases pure
  · rintro ⟨stands, alone⟩
    rw [stands]
    exact if_pos alone

theorem not_mem_keys_of_siblings {schema : JsonObject} {key : PyStr}
    (alone : semanticSiblings schema = []) (other : key ≠ py "$ref")
    (semantic : key ∉ qwenRefAnnotationKeys) : key ∉ schema.keys := by
  intro member
  have stays : key ∈ semanticSiblings schema :=
    List.mem_filter.mpr ⟨member, by simp [other, semantic]⟩
  rw [alone] at stays
  cases stays

theorem declaredType_of_pure {schema : JsonObject} {ref : PyStr}
    (pure : pureLocalRef schema = some ref) : declaredType schema = none := by
  have alone := (pureLocalRef_eq_some.mp pure).2.2
  have absent : py "type" ∉ schema.keys :=
    not_mem_keys_of_siblings alone (by decide) (by decide)
  rw [declaredType, get?_eq_none_of_not_mem absent]

theorem addedAnnotations_keys {current expanded : JsonObject} {key : PyStr}
    (member : key ∈ (addedAnnotations current expanded).keys) : key ∈ qwenRefAnnotationKeys := by
  rcases List.mem_map.mp member with ⟨entry, inside, rfl⟩
  rcases List.mem_filterMap.mp inside with ⟨listing, listed, added⟩
  split at added
  · cases added
  · rcases Option.map_eq_some_iff.mp added with ⟨value, _, rfl⟩
    exact listed

theorem declaredType_annotated (current expanded : JsonObject) :
    declaredType (expanded ++ addedAnnotations current expanded) = declaredType expanded := by
  have absent : (addedAnnotations current expanded).get? (py "type") = none :=
    get?_eq_none_of_not_mem fun member => absurd (addedAnnotations_keys member) (by decide)
  rw [declaredType, declaredType, get?_append, absent, Option.or_none]

/-! ## Declared types -/

variable {rootSchema : JsonObject}

/-- Whether a value is a string, and which, is not changed. -/
theorem Resolved.str_iff {remaining : Nat} {activeRefs : List PyStr} {current output : JsonValue}
    (resolved : Resolved rootSchema remaining activeRefs current output) (text : PyStr) :
    output = .str text ↔ current = .str text := by
  cases remaining with
  | zero =>
      cases resolved
      exact Iff.rfl
  | succ remaining =>
      cases resolved with
      | atom => exact Iff.rfl
      | list | cycle | target | dict => simp

theorem declaredType_eq_some {schema : JsonObject} {typeValue : PyStr} :
    declaredType schema = some typeValue ↔ schema.get? (py "type") = some (.str typeValue) := by
  rw [declaredType]
  split
  · rename_i found stands
    simp [stands]
  · rename_i otherwise
    simp only [reduceCtorEq, false_iff]
    exact otherwise typeValue

theorem declaredType_children {remaining : Nat} {activeRefs : List PyStr}
    {entries outputs : JsonObject}
    (children : List.Forall₂ (fun entry output => entry.1 = output.1 ∧
      Resolved rootSchema remaining activeRefs entry.2 output.2) entries outputs) :
    declaredType outputs = declaredType entries := by
  apply Option.ext
  intro typeValue
  rw [declaredType_eq_some, declaredType_eq_some]
  have related := get?_forall₂ children (py "type")
  generalize entries.get? (py "type") = declared at related ⊢
  generalize outputs.get? (py "type") = resolved at related ⊢
  cases related with
  | none => simp
  | some inside => simp [inside.str_iff]

/-- A schema with an `$id` is read no further. -/
theorem propertyTypeFrom_of_id {schema : JsonObject} (hops : Nat) (activeRefs : List PyStr)
    (identified : (schema.get? (py "$id")).isSome) (untyped : (schema.get? (py "type")).isNone) :
    propertyTypeFrom rootSchema hops activeRefs schema = none := by
  have undeclared : declaredType schema = none := by
    rw [declaredType, Option.isNone_iff_eq_none.mp untyped]
  have siblings : semanticSiblings schema ≠ [] := by
    intro alone
    rcases Option.isSome_iff_exists.mp identified with ⟨value, found⟩
    exact not_mem_keys_of_siblings alone (by decide) (by decide) (mem_keys_of_get? found)
  cases hops with
  | zero => exact undeclared
  | succ hops =>
      rw [propertyTypeFrom, undeclared]
      dsimp only
      split
      · rw [if_pos (by simp [siblings])]
      · rfl

/-- The walk along the references ends with the type that the resolved schema declares. -/
theorem propertyTypeFrom_resolved {remaining : Nat} {activeRefs : List PyStr}
    {current output : JsonObject}
    (resolved : Resolved rootSchema remaining activeRefs (.dict current) (.dict output)) :
    propertyTypeFrom rootSchema remaining activeRefs current = declaredType output := by
  induction remaining generalizing activeRefs current output with
  | zero =>
      cases resolved
      rfl
  | succ remaining induction =>
      rw [propertyTypeFrom]
      cases resolved with
      | atom _ noDict => exact absurd rfl (noDict current)
      | @cycle _ ref pure active =>
          rw [declaredType_of_pure pure, (pureLocalRef_eq_some.mp pure).1]
          dsimp only
          rw [if_pos (by simp only [active, Bool.or_true])]
      | @target _ definition expanded ref pure inactive points inside =>
          rcases pureLocalRef_eq_some.mp pure with ⟨stands, isLocal, alone⟩
          rw [declaredType_of_pure pure, stands, declaredType_annotated]
          simp only [isLocal, alone, inactive, points, Bool.not_true, ne_eq, not_true,
            decide_false, Bool.or_self, Bool.false_eq_true, if_false]
          by_cases stops : (JsonObject.get? definition (py "$id")).isSome ∧
              (JsonObject.get? definition (py "type")).isNone
          · rw [if_pos stops, ← induction inside, propertyTypeFrom_of_id _ _ stops.1 stops.2]
          · rw [if_neg stops, induction inside]
      | dict untargeted children =>
          rw [declaredType_children children]
          cases declared : declaredType current with
          | some typeValue => rfl
          | none =>
              dsimp only
              split
              · rename_i ref stands
                split
                · rfl
                · rename_i follows
                  have pure : pureLocalRef current = some ref := by
                    simp only [Bool.or_eq_true, not_or, decide_eq_true_eq, not_not] at follows
                    exact pureLocalRef_eq_some.mpr ⟨stands, by simpa using follows.1.1,
                      follows.1.2⟩
                  split
                  · rename_i definition points
                    exact absurd points ((untargeted ref pure).2 definition)
                  · rfl
              · rfl

/-! ## Without limits -/

def noLimits : ResolutionLimits := ⟨none, none⟩

theorem observeNode_noLimits (detached : Bool) (outputDepth : Nat) (state : ResolutionState) :
    observeNode noLimits detached outputDepth state = .ok () state := by
  cases detached with
  | false => rfl
  | true => rfl

theorem expansionOf_only_shared (activeRefs : List PyStr) (entries : JsonObject) :
    OnlyFails (· = .sharedRefExpansion) (expansionOf rootSchema activeRefs entries) := by
  intro state failure final failed
  rw [expansionOf] at failed
  split at failed
  · cases failed
  · split at failed
    · cases failed
    · split at failed
      · cases failed
        rfl
      · split at failed
        · cases failed
        · cases failed

theorem resolveMembers_only_shared {child : JsonValue → Resolution JsonValue}
    (entries : JsonObject) (each : ∀ value, OnlyFails (· = .sharedRefExpansion) (child value)) :
    OnlyFails (· = .sharedRefExpansion) (resolveMembers child entries) := by
  apply onlyFails_bind
  · apply onlyFails_mapM
    intro entry
    exact onlyFails_bind (each entry.2) fun _ => onlyFails_pure _
  · intro _
    exact onlyFails_pure _

/-- Without limits a resolution fails only at a reference that was expanded elsewhere. -/
theorem resolve_only_shared (remaining : Nat) (activeRefs : List PyStr) (detached : Bool)
    (outputDepth : Nat) (current : JsonValue) :
    OnlyFails (· = .sharedRefExpansion)
      (resolve noLimits rootSchema remaining activeRefs detached outputDepth current) := by
  have observed : ∀ detached outputDepth, OnlyFails (· = ResolutionFailure.sharedRefExpansion)
      (observeNode noLimits detached outputDepth) := by
    intro detached outputDepth state failure final failed
    rw [observeNode_noLimits] at failed
    cases failed
  induction remaining generalizing activeRefs detached outputDepth current with
  | zero => exact onlyFails_bind (observed _ _) fun _ => onlyFails_pure _
  | succ remaining induction =>
      apply onlyFails_bind (observed _ _)
      intro _
      cases current with
      | null | bool | int | float | str => exact onlyFails_pure _
      | list items =>
          apply onlyFails_bind (onlyFails_mapM (fun item => induction _ _ _ item) items)
          intro _
          exact onlyFails_pure _
      | dict entries =>
          have children := resolveMembers_only_shared entries
            (induction activeRefs detached (outputDepth + 1))
          apply onlyFails_bind (expansionOf_only_shared activeRefs entries)
          intro expansion
          cases expansion with
          | keep => exact onlyFails_pure _
          | children => exact children
          | target ref definition =>
              apply onlyFails_bind (induction _ _ _ _)
              intro expanded
              cases expanded with
              | dict => exact onlyFails_pure _
              | null | bool | int | float | str | list => exact children

/-- Where no shared reference stops the resolution, the type that the decoder reads is the one
that the resolved schema declares. -/
theorem property_types_agree (rootSchema propertySchema : JsonObject)
    (defsObject : definitionsAreObject rootSchema (py "$defs") = true)
    (definitionsObject : definitionsAreObject rootSchema (py "definitions") = true)
    (unshared : ∀ final, resolveQwenPropertyRefs noLimits rootSchema propertySchema .empty ≠
      .error .sharedRefExpansion final) :
    ∃ resolved, qwenPropertySchema noLimits rootSchema propertySchema = .ok resolved ∧
      qwenPropertySchemaType rootSchema propertySchema = declaredType resolved := by
  cases ended : resolveQwenPropertyRefs noLimits rootSchema propertySchema .empty with
  | error failure final =>
      rw [resolve_only_shared _ _ _ _ _ _ _ _ ended] at ended
      exact absurd ended (unshared final)
  | ok value final =>
      have resolved := resolve_resolved ended
      rcases resolved.of_dict with ⟨schema, rfl⟩
      refine ⟨schema, ?_, propertyTypeFrom_resolved resolved⟩
      simp [qwenPropertySchema, defsObject, definitionsObject, ended]

/-! A string, and aliases that each refer to the one before, with a title of their own. -/

def aliasName (hops : Nat) : PyStr := [chr (Char.ofNat (0x100 + hops))]

def aliasOf (hops : Nat) : JsonObject :=
  [(py "$ref", .str (py "#/$defs/" ++ aliasName hops)), (py "title", .str (aliasName hops))]

def aliasDefinitions : Nat → JsonObject
  | 0 => [(aliasName 0, .dict [(py "type", .str (py "string"))])]
  | hops + 1 => (aliasName (hops + 1), .dict (aliasOf hops)) :: aliasDefinitions hops

def aliasRoot (hops : Nat) : JsonObject := [(py "$defs", .dict (aliasDefinitions hops))]

def aliasResolves (hops : Nat) : Bool :=
  match resolveQwenPropertyRefs noLimits (aliasRoot hops) (aliasOf hops) .empty with
  | .ok _ _ => true
  | .error _ _ => false

theorem unshared_of_aliasResolves {hops : Nat} (resolved : aliasResolves hops = true)
    (final : ResolutionState) :
    resolveQwenPropertyRefs noLimits (aliasRoot hops) (aliasOf hops) .empty ≠
      .error .sharedRefExpansion final := by
  intro ended
  rw [aliasResolves, ended] at resolved
  cases resolved

theorem aliases_resolve :
    aliasResolves qwenRefExpansionLimit = true ∧
      aliasResolves (qwenRefExpansionLimit + 1) = true := by
  decide +kernel

theorem aliasTypes :
    qwenPropertySchemaType (aliasRoot qwenRefExpansionLimit) (aliasOf qwenRefExpansionLimit) =
        some (py "string") ∧
      qwenPropertySchemaType (aliasRoot (qwenRefExpansionLimit + 1))
        (aliasOf (qwenRefExpansionLimit + 1)) = none := by
  decide +kernel

/-- The longest chain that is followed to its end, and one that is longer. -/
theorem property_types_agree_alias :
    (∃ resolved, qwenPropertySchema noLimits (aliasRoot qwenRefExpansionLimit)
        (aliasOf qwenRefExpansionLimit) = .ok resolved ∧
      declaredType resolved = some (py "string")) ∧
    ∃ resolved, qwenPropertySchema noLimits (aliasRoot (qwenRefExpansionLimit + 1))
        (aliasOf (qwenRefExpansionLimit + 1)) = .ok resolved ∧ declaredType resolved = none := by
  constructor
  · rcases property_types_agree (aliasRoot qwenRefExpansionLimit) (aliasOf qwenRefExpansionLimit)
      rfl rfl (unshared_of_aliasResolves aliases_resolve.1) with ⟨resolved, ended, same⟩
    exact ⟨resolved, ended, same.symm.trans aliasTypes.1⟩
  · rcases property_types_agree (aliasRoot (qwenRefExpansionLimit + 1))
      (aliasOf (qwenRefExpansionLimit + 1)) rfl rfl
      (unshared_of_aliasResolves aliases_resolve.2) with ⟨resolved, ended, same⟩
    exact ⟨resolved, ended, same.symm.trans aliasTypes.2⟩

end ExQServe.Model
