import ExQServe.Agent.JsonCanonical
import ExQServe.Agent.JsonText
import ExQServe.Agent.Tools
import ExQServe.Foundation.Dict
import ExQServe.Foundation.Replace

/-! # Parameter types for GLM-5

What `model/glm5.py` derives from the exposed tools before a parser is created: the JSON types
of each parameter, through local references and unions. -/

namespace ExQServe.Model.Glm5

open ExQServe.Search

/-! ## Schema types -/

mutual

def nodes : JsonValue → Nat
  | .list items => itemNodes items + 1
  | .dict entries => entryNodes entries + 1
  | _ => 1

def itemNodes : List JsonValue → Nat
  | [] => 0
  | item :: items => nodes item + itemNodes items

def entryNodes : List (PyStr × JsonValue) → Nat
  | [] => 0
  | (_, value) :: entries => nodes value + entryNodes entries

end

def pointerParts (reference : PyStr) : List PyStr :=
  ((reference.drop 2).splitOn (chr '/')).map fun rawPart =>
    replaceAll (py "~0") (py "~") (replaceAll (py "~1") (py "/") rawPart)

def followParts : List PyStr → JsonValue → Option JsonValue
  | [], current => some current
  | part :: parts, .dict entries => (JsonObject.get? entries part).bind (followParts parts)
  | _ :: _, _ => none

def resolveLocalSchemaRef (reference : PyStr) (root : JsonValue) : Option JsonValue :=
  if py "#/" <+: reference then followParts (pointerParts reference) root else none

def allStrings : List JsonValue → Option (List PyStr)
  | [] => some []
  | .str text :: items => (allStrings items).map fun texts => text :: texts
  | _ :: _ => none

def unionBranches (schema : JsonObject) : Option (List JsonValue) :=
  [py "anyOf", py "oneOf"].findSome? fun keyword =>
    match schema.get? keyword with
    | some (.list (branch :: branches)) => some (branch :: branches)
    | _ => none

/-- `_schema_types`. A path follows each reference once and between two of them only goes into
the schema, so that the square of the nodes bounds it. -/
def schemaTypes (root : JsonValue) : Nat → JsonValue → List PyStr → Option (List PyStr)
  | 0, _, _ => none
  | fuel + 1, .dict schema, seenReferences =>
      match JsonObject.get? schema (py "$ref") with
      | some (.str reference) =>
          if reference ∈ seenReferences then none
          else
            match resolveLocalSchemaRef reference root with
            | none => none
            | some resolved => schemaTypes root fuel resolved (reference :: seenReferences)
      | _ =>
          let unions := match unionBranches schema with
            | none => none
            | some branches =>
                (branches.mapM fun branch => schemaTypes root fuel branch seenReferences).map
                  List.flatten
          match JsonObject.get? schema (py "type") with
          | some (.str declared) => some [declared]
          | some (.list items) => (allStrings items).orElse fun _ => unions
          | _ => unions
  | _ + 1, _, _ => none

/-! ## What a schema says

The rules of `_schema_types` without a bound, and that the bound is large enough. -/

inductive Declares (schema : JsonObject) : List PyStr → Prop
  | one {name : PyStr} : schema.get? (py "type") = some (.str name) → Declares schema [name]
  | several {items : List JsonValue} {names : List PyStr} :
      schema.get? (py "type") = some (.list items) → allStrings items = some names →
        Declares schema names

/-- The types of a schema behind references that were followed. -/
inductive SchemaSays (root : JsonValue) : List PyStr → JsonValue → List PyStr → Prop
  | reference {seen : List PyStr} {schema : JsonObject} {target : PyStr} {resolved : JsonValue}
      {types : List PyStr} :
      schema.get? (py "$ref") = some (.str target) → target ∉ seen →
      resolveLocalSchemaRef target root = some resolved →
      SchemaSays root (target :: seen) resolved types → SchemaSays root seen (.dict schema) types
  | declared {seen : List PyStr} {schema : JsonObject} {types : List PyStr} :
      (∀ target, schema.get? (py "$ref") ≠ some (.str target)) → Declares schema types →
      SchemaSays root seen (.dict schema) types
  | union {seen : List PyStr} {schema : JsonObject} {branches : List JsonValue}
      {typesOf : JsonValue → List PyStr} :
      (∀ target, schema.get? (py "$ref") ≠ some (.str target)) →
      (∀ types, ¬Declares schema types) → unionBranches schema = some branches →
      (∀ branch ∈ branches, SchemaSays root seen branch (typesOf branch)) →
      SchemaSays root seen (.dict schema) (branches.flatMap typesOf)

section Rules

variable {root : JsonValue} {seen : List PyStr} {schema : JsonObject} {fuel : Nat}

theorem schemaTypes_reference {target : PyStr} {resolved : JsonValue}
    (refers : schema.get? (py "$ref") = some (.str target)) (new : target ∉ seen)
    (found : resolveLocalSchemaRef target root = some resolved) :
    schemaTypes root (fuel + 1) (.dict schema) seen =
      schemaTypes root fuel resolved (target :: seen) := by
  rw [schemaTypes, refers]
  dsimp only
  rw [if_neg new, found]

theorem schemaTypes_declared {types : List PyStr}
    (plain : ∀ target, schema.get? (py "$ref") ≠ some (.str target))
    (declares : Declares schema types) :
    schemaTypes root (fuel + 1) (.dict schema) seen = some types := by
  rw [schemaTypes]
  split
  · rename_i target refers
    exact absurd refers (plain target)
  · cases declares with
    | one named => rw [named]
    | several named strings =>
        rw [named]
        dsimp only
        rw [strings]
        rfl

theorem schemaTypes_union (plain : ∀ target, schema.get? (py "$ref") ≠ some (.str target))
    (undeclared : ∀ types, ¬Declares schema types) :
    schemaTypes root (fuel + 1) (.dict schema) seen = (unionBranches schema).bind fun branches =>
      (branches.mapM fun branch => schemaTypes root fuel branch seen).map List.flatten := by
  rw [schemaTypes]
  split
  · rename_i target refers
    exact absurd refers (plain target)
  · have inner : (match unionBranches schema with
        | none => none
        | some branches =>
            (branches.mapM fun branch => schemaTypes root fuel branch seen).map List.flatten) =
        (unionBranches schema).bind fun branches =>
          (branches.mapM fun branch => schemaTypes root fuel branch seen).map List.flatten := by
      cases unionBranches schema <;> rfl
    rw [inner]
    cases named : JsonObject.get? schema (py "type") with
    | none => rfl
    | some declared =>
        cases declared with
        | str name => exact absurd (.one named) (undeclared _)
        | list items =>
            cases strings : allStrings items with
            | none =>
                dsimp only
                rw [strings]
                rfl
            | some names => exact absurd (.several named strings) (undeclared _)
        | null | bool | int | float | dict => rfl

end Rules

theorem mapM_eq_some {α β : Type} {step : α → Option β} {values : List α} {results : List β}
    (mapped : values.mapM step = some results) {fallback : β} :
    results = values.map (fun value => (step value).getD fallback) ∧
      ∀ value ∈ values, step value = some ((step value).getD fallback) := by
  induction values generalizing results with
  | nil =>
      cases mapped
      exact ⟨rfl, by simp⟩
  | cons value values induction =>
      rw [List.mapM_cons] at mapped
      rcases Option.bind_eq_some_iff.mp mapped with ⟨first, here, mapped⟩
      rcases Option.bind_eq_some_iff.mp mapped with ⟨rest, there, whole⟩
      cases whole
      rcases induction there with ⟨same, each⟩
      simp only [List.map_cons, here, Option.getD_some, ← same, List.forall_mem_cons, true_and]
      exact each

/-- One level of the function, when what it returns below is what the schema says. -/
theorem schemaSays_dict {root : JsonValue} {schema : JsonObject} {fuel : Nat}
    {seen types : List PyStr}
    (below : ∀ {value : JsonValue} {seen types : List PyStr},
      schemaTypes root fuel value seen = some types → SchemaSays root seen value types)
    (returned : schemaTypes root (fuel + 1) (.dict schema) seen = some types) :
    SchemaSays root seen (.dict schema) types := by
  by_cases refers : ∃ target, schema.get? (py "$ref") = some (.str target)
  · rcases refers with ⟨target, refers⟩
    by_cases old : target ∈ seen
    · rw [schemaTypes, refers] at returned
      dsimp only at returned
      rw [if_pos old] at returned
      cases returned
    · cases found : resolveLocalSchemaRef target root with
      | none =>
          rw [schemaTypes, refers] at returned
          dsimp only at returned
          rw [if_neg old, found] at returned
          cases returned
      | some resolved =>
          rw [schemaTypes_reference refers old found] at returned
          exact .reference refers old found (below returned)
  · have plain : ∀ target, schema.get? (py "$ref") ≠ some (.str target) :=
      fun target named => refers ⟨target, named⟩
    by_cases declares : ∃ names, Declares schema names
    · rcases declares with ⟨names, declares⟩
      rw [schemaTypes_declared plain declares] at returned
      cases returned
      exact .declared plain declares
    · have undeclared : ∀ names, ¬Declares schema names :=
        fun names named => declares ⟨names, named⟩
      rw [schemaTypes_union plain undeclared] at returned
      rcases Option.bind_eq_some_iff.mp returned with ⟨branches, choice, returned⟩
      rcases Option.map_eq_some_iff.mp returned with ⟨results, mapped, rfl⟩
      rcases @mapM_eq_some _ _ _ _ _ mapped [] with ⟨rfl, each⟩
      rw [← List.flatMap_def]
      exact .union plain undeclared choice fun branch member => below (each branch member)

/-- What the function returns is what the schema says. -/
theorem schemaSays_of_schemaTypes {root value : JsonValue} {fuel : Nat} {seen types : List PyStr}
    (returned : schemaTypes root fuel value seen = some types) :
    SchemaSays root seen value types := by
  induction fuel generalizing value seen types with
  | zero => cases returned
  | succ fuel induction =>
      cases value with
      | dict schema => exact schemaSays_dict induction returned
      | null | bool | int | float | str | list => cases returned

/-! The bound: a path through the document follows each of its references once, and between two
of them it goes down into the schema. -/

mutual

def references : JsonValue → List PyStr
  | .list items => itemReferences items
  | .dict entries =>
      (match JsonObject.get? entries (py "$ref") with
      | some (.str target) => [target]
      | _ => []) ++ entryReferences entries
  | _ => []

def itemReferences : List JsonValue → List PyStr
  | [] => []
  | item :: items => references item ++ itemReferences items

def entryReferences : List (PyStr × JsonValue) → List PyStr
  | [] => []
  | (_, value) :: entries => references value ++ entryReferences entries

end

inductive Within (root : JsonValue) : JsonValue → Prop
  | whole : Within root root
  | item {items : List JsonValue} {item : JsonValue} :
      Within root (.list items) → item ∈ items → Within root item
  | entry {entries : List (PyStr × JsonValue)} {key : PyStr} {value : JsonValue} :
      Within root (.dict entries) → (key, value) ∈ entries → Within root value

theorem item_inside {items : List JsonValue} {item : JsonValue} (member : item ∈ items) :
    nodes item ≤ itemNodes items ∧ references item ⊆ itemReferences items := by
  induction items with
  | nil => cases member
  | cons first items induction =>
      rw [itemNodes, itemReferences]
      rcases List.mem_cons.mp member with rfl | later
      · exact ⟨Nat.le_add_right _ _, List.subset_append_left _ _⟩
      · rcases induction later with ⟨less, inside⟩
        exact ⟨by omega, fun target there => List.mem_append_right _ (inside there)⟩

theorem entry_inside {entries : List (PyStr × JsonValue)} {key : PyStr} {value : JsonValue}
    (member : (key, value) ∈ entries) :
    nodes value ≤ entryNodes entries ∧ references value ⊆ entryReferences entries := by
  induction entries with
  | nil => cases member
  | cons first entries induction =>
      rcases first with ⟨other, held⟩
      rw [entryNodes, entryReferences]
      rcases List.mem_cons.mp member with same | later
      · cases same
        exact ⟨Nat.le_add_right _ _, List.subset_append_left _ _⟩
      · rcases induction later with ⟨less, inside⟩
        exact ⟨by omega, fun target there => List.mem_append_right _ (inside there)⟩

theorem Within.inside {root value : JsonValue} (within : Within root value) :
    nodes value ≤ nodes root ∧ references value ⊆ references root := by
  induction within with
  | whole => exact ⟨Nat.le_refl _, List.Subset.refl _⟩
  | item holds member induction =>
      rcases item_inside member with ⟨less, inside⟩
      rw [nodes, references] at induction
      exact ⟨by omega, fun target there => induction.2 (inside there)⟩
  | entry holds member induction =>
      rcases entry_inside member with ⟨less, inside⟩
      rw [nodes, references] at induction
      exact ⟨by omega, fun target there => induction.2 (List.mem_append_right _ (inside there))⟩

theorem Within.get? {root : JsonValue} {entries : JsonObject} {key : PyStr} {value : JsonValue}
    (within : Within root (.dict entries)) (found : entries.get? key = some value) :
    Within root value := by
  rw [JsonObject.get?] at found
  rcases Option.map_eq_some_iff.mp found with ⟨⟨name, held⟩, member, rfl⟩
  exact .entry within (List.mem_of_find?_eq_some member)

theorem within_followParts {root current value : JsonValue} {parts : List PyStr}
    (within : Within root current) (found : followParts parts current = some value) :
    Within root value := by
  induction parts generalizing current with
  | nil =>
      cases found
      exact within
  | cons part parts induction =>
      cases current with
      | dict entries =>
          rcases Option.bind_eq_some_iff.mp found with ⟨next, member, found⟩
          exact induction (within.get? member) found
      | null | bool | int | float | str | list => cases found

theorem within_resolve {root value : JsonValue} {target : PyStr}
    (found : resolveLocalSchemaRef target root = some value) : Within root value := by
  rw [resolveLocalSchemaRef] at found
  split at found
  · exact within_followParts .whole found
  · cases found

theorem unionBranches_get? {schema : JsonObject} {branches : List JsonValue}
    (choice : unionBranches schema = some branches) :
    ∃ keyword, schema.get? keyword = some (.list branches) := by
  rw [unionBranches] at choice
  rcases List.exists_of_findSome?_eq_some choice with ⟨keyword, -, found⟩
  refine ⟨keyword, ?_⟩
  split at found
  · rename_i first rest named
    cases found
    exact named
  · cases found

def unfollowed (root : JsonValue) (seen : List PyStr) : List PyStr :=
  (references root).filter fun target => decide (target ∉ seen)

def fuelFor (root : JsonValue) (seen : List PyStr) (value : JsonValue) : Nat :=
  (unfollowed root seen).length * (nodes root + 1) + nodes value

theorem unfollowed_cons {root : JsonValue} {seen : List PyStr} {target : PyStr}
    (there : target ∈ references root) (new : target ∉ seen) :
    (unfollowed root (target :: seen)).length < (unfollowed root seen).length := by
  have fewer : unfollowed root (target :: seen) =
      (unfollowed root seen).filter fun other => decide (other ≠ target) := by
    rw [unfollowed, unfollowed, List.filter_filter]
    apply List.filter_congr
    intro other _
    simp
  rw [fewer]
  apply List.length_filter_lt_length_iff_exists.mpr
  exact ⟨target, List.mem_filter.mpr ⟨there, decide_eq_true new⟩, by simp⟩

theorem reference_mem {schema : JsonObject} {target : PyStr}
    (refers : schema.get? (py "$ref") = some (.str target)) :
    target ∈ references (.dict schema) := by
  rw [references, refers]
  exact List.mem_append_left _ (List.mem_singleton.mpr rfl)

theorem nodes_pos (value : JsonValue) : 0 < nodes value := by
  cases value <;> simp [nodes]

theorem fuelFor_reference {root resolved : JsonValue} {schema : JsonObject} {seen : List PyStr}
    {target : PyStr} (within : Within root (.dict schema))
    (refers : schema.get? (py "$ref") = some (.str target)) (new : target ∉ seen)
    (found : resolveLocalSchemaRef target root = some resolved) :
    fuelFor root (target :: seen) resolved < fuelFor root seen (.dict schema) := by
  have fewer := unfollowed_cons (within.inside.2 (reference_mem refers)) new
  have size := (within_resolve found).inside.1
  have positive := nodes_pos (.dict schema)
  have steps := Nat.mul_le_mul_right (nodes root + 1) (Nat.succ_le_of_lt fewer)
  rw [Nat.succ_mul] at steps
  rw [fuelFor, fuelFor]
  omega

theorem fuelFor_branch {root branch : JsonValue} {schema : JsonObject} {seen : List PyStr}
    {keyword : PyStr} {branches : List JsonValue}
    (found : schema.get? keyword = some (.list branches)) (member : branch ∈ branches) :
    fuelFor root seen branch < fuelFor root seen (.dict schema) := by
  rw [JsonObject.get?] at found
  rcases Option.map_eq_some_iff.mp found with ⟨⟨name, held⟩, entry, rfl⟩
  have inList := (item_inside member).1
  have inDict := (entry_inside (List.mem_of_find?_eq_some entry)).1
  rw [nodes] at inDict
  rw [fuelFor, fuelFor, @nodes.eq_2 schema]
  omega

theorem mapM_eq_map {α β : Type} {step : α → Option β} {values : List α} {result : α → β}
    (each : ∀ value ∈ values, step value = some (result value)) :
    values.mapM step = some (values.map result) := by
  induction values with
  | nil => rfl
  | cons value values induction =>
      rw [List.mapM_cons, each value (.head _),
        induction fun other member => each other (.tail _ member)]
      rfl

/-- What the schema says is returned. -/
theorem schemaTypes_of_schemaSays {root value : JsonValue} {seen types : List PyStr}
    (told : SchemaSays root seen value types) (within : Within root value) {fuel : Nat}
    (enough : fuelFor root seen value ≤ fuel) :
    schemaTypes root fuel value seen = some types := by
  induction told generalizing fuel with
  | @reference seen schema target resolved types refers new found told induction =>
      have less := fuelFor_reference within refers new found
      cases fuel with
      | zero => omega
      | succ fuel =>
          rw [schemaTypes_reference refers new found]
          exact induction (within_resolve found) (by omega)
  | @declared seen schema types plain declares =>
      have positive := nodes_pos (.dict schema)
      cases fuel with
      | zero =>
          rw [fuelFor] at enough
          omega
      | succ fuel => exact schemaTypes_declared plain declares
  | @union seen schema branches typesOf plain undeclared choice told induction =>
      rcases unionBranches_get? choice with ⟨keyword, found⟩
      have positive := nodes_pos (.dict schema)
      cases fuel with
      | zero =>
          rw [fuelFor] at enough
          omega
      | succ fuel =>
          have each : ∀ branch ∈ branches,
              schemaTypes root fuel branch seen = some (typesOf branch) := by
            intro branch member
            have less := @fuelFor_branch root branch schema seen keyword branches found member
            exact induction branch member (.item (within.get? found) member) (by omega)
          rw [schemaTypes_union plain undeclared, choice, Option.bind_some, mapM_eq_map each,
            Option.map_some, List.flatMap_def]

theorem length_references (value : JsonValue) : (references value).length ≤ nodes value := by
  induction value using JsonValue.inductive_on with
  | null | bool | int | float | str => exact Nat.zero_le _
  | list items each =>
      have inside : (itemReferences items).length ≤ itemNodes items := by
        induction items with
        | nil => exact Nat.le_refl _
        | cons item items induction =>
            have here := each item (.head _)
            have later := induction fun other member => each other (.tail _ member)
            rw [itemReferences, itemNodes, List.length_append]
            omega
      rw [references, nodes]
      omega
  | dict entries each =>
      have inside : (entryReferences entries).length ≤ entryNodes entries := by
        induction entries with
        | nil => exact Nat.le_refl _
        | cons entry entries induction =>
            have here := each entry (.head _)
            have later := induction fun other member => each other (.tail _ member)
            rcases entry with ⟨key, value⟩
            dsimp only at here
            rw [entryReferences, entryNodes, List.length_append]
            omega
      rw [references, nodes, List.length_append]
      split
      · rw [List.length_singleton]
        omega
      · rw [List.length_nil]
        omega

/-- The bound that the tools are read with is large enough. -/
theorem schemaTypes_eq_some_iff {root value : JsonValue} {types : List PyStr}
    (within : Within root value) :
    schemaTypes root ((nodes root + 1) ^ 2) value [] = some types ↔
      SchemaSays root [] value types := by
  refine ⟨schemaSays_of_schemaTypes, fun told => schemaTypes_of_schemaSays told within ?_⟩
  have every : unfollowed root [] = references root := by simp [unfollowed]
  have few := Nat.mul_le_mul_right (nodes root + 1) (length_references root)
  have size := within.inside.1
  rw [fuelFor, every, pow_two, Nat.succ_mul]
  omega

/-! ## The parser context -/

abbrev ParameterTypes := Dict PyStr (Dict PyStr (Option (List PyStr)))

structure Glm5ParserContext where
  toolsEnabled : Bool
  parameterTypes : ParameterTypes
deriving DecidableEq

/-- `_exposed_tools`, without the order that the prompt needs. -/
def exposedTools (policy : ToolPolicy) : List FunctionTool :=
  match policy.choice.mode with
  | .none => []
  | .named => policy.tools.filter fun tool => some tool.name = policy.choice.name
  | _ => policy.tools

def toolParameterTypes (schema : JsonObject) : Dict PyStr (Option (List PyStr)) :=
  match schema.get? (py "properties") with
  | some (.dict properties) =>
      let root := JsonValue.dict schema
      properties.foldl (fun types property =>
        types.set property.1 (schemaTypes root ((nodes root + 1) ^ 2) property.2 [])) .empty
  | _ => .empty

def glm5ParserContext (policy : ToolPolicy) : Glm5ParserContext where
  toolsEnabled := decide (exposedTools policy ≠ [])
  parameterTypes := (exposedTools policy).foldl (fun types tool =>
    types.set tool.name (toolParameterTypes tool.parameters.document)) .empty

/-! ## What the context has -/

/-- The types that a tool's schema gives for a parameter. -/
def Declared (tool : FunctionTool) (key : PyStr) (types : List PyStr) : Prop :=
  ∃ properties property,
    tool.parameters.document.get? (py "properties") = some (.dict properties) ∧
      JsonObject.get? properties key = some property ∧
      SchemaSays (.dict tool.parameters.document) [] property types

/-- An object in a schema has each of its names once. -/
theorem properties_distinct (schema : JsonSchema) {key : PyStr} {properties : JsonObject}
    (found : schema.document.get? key = some (.dict properties)) :
    (properties.map Prod.fst).Nodup := by
  rcases schema.parsed with ⟨_, -, parsed⟩
  rcases parseJsonStrict_eq_some.mp parsed with ⟨_, _, _, _, _, written, _⟩
  rw [JsonObject.get?] at found
  rcases Option.map_eq_some_iff.mp found with ⟨entry, member, same⟩
  rcases (Json.written_dict written).2 entry (List.mem_of_find?_eq_some member) with ⟨_, written⟩
  rw [same] at written
  exact (Json.written_dict written).1

theorem toolParameterTypes_eq_some_iff {tool : FunctionTool} {key : PyStr} {types : List PyStr} :
    (toolParameterTypes tool.parameters.document).get? key = some (some types) ↔
      Declared tool key types := by
  rw [toolParameterTypes]
  split
  · rename_i properties found
    dsimp only
    rw [Dict.get?_foldl_set (properties_distinct tool.parameters found), Dict.get?_empty,
      Option.or_none, Option.map_eq_some_iff]
    constructor
    · rintro ⟨⟨name, property⟩, member, returned⟩
      have within : Within (.dict tool.parameters.document) property :=
        .entry (.get? .whole found) (List.mem_of_find?_eq_some member)
      refine ⟨properties, property, found, ?_, (schemaTypes_eq_some_iff within).mp returned⟩
      rw [JsonObject.get?, member]
      rfl
    · rintro ⟨others, property, same, member, told⟩
      rw [found] at same
      cases same
      have within := Within.get? (.get? .whole found) member
      rw [JsonObject.get?] at member
      rcases Option.map_eq_some_iff.mp member with ⟨entry, inside, rfl⟩
      exact ⟨entry, inside, (schemaTypes_eq_some_iff within).mpr told⟩
  · rename_i other
    rw [Dict.get?_empty]
    constructor
    · intro returned
      cases returned
    · rintro ⟨properties, property, found, -⟩
      exact absurd found (other properties)

theorem exposed_nonempty {policy : ToolPolicy} {tool : FunctionTool}
    (exposed : tool ∈ exposedTools policy) :
    (glm5ParserContext policy).toolsEnabled = true :=
  decide_eq_true (List.ne_nil_of_mem exposed)

theorem exposedTools_sublist (policy : ToolPolicy) :
    List.Sublist (exposedTools policy) policy.tools := by
  rw [exposedTools]
  split
  · exact List.nil_sublist _
  · exact List.filter_sublist
  · exact List.Sublist.refl _

theorem get?_glm5ParserContext {policy : ToolPolicy} {tool : FunctionTool}
    (exposed : tool ∈ exposedTools policy) :
    (glm5ParserContext policy).parameterTypes.get? tool.name =
      some (toolParameterTypes tool.parameters.document) := by
  have distinct : ((exposedTools policy).map FunctionTool.name).Nodup :=
    policy.namesUnique.sublist ((exposedTools_sublist policy).map _)
  have found : (exposedTools policy).find? (fun other => other.name = tool.name) = some tool :=
    (find?_name distinct).mpr ⟨exposed, rfl⟩
  rw [glm5ParserContext]
  dsimp only
  rw [Dict.get?_foldl_set distinct, found]
  rfl

end ExQServe.Model.Glm5
