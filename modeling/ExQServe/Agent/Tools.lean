import ExQServe.Agent.Json

/-! # Tool declarations

The model of `agent/schema.py` and `agent/tools.py`. That a schema meets the Draft
2020-12 meta-schema is checked by another package and not modelled, so more
schemas are admitted here. -/

namespace ExQServe

open ExQServe.Search

abbrev JsonObject := List (PyStr × JsonValue)

namespace JsonObject

def get? (entries : JsonObject) (key : PyStr) : Option JsonValue :=
  (entries.find? (·.1 = key)).map Prod.snd

def keys (entries : JsonObject) : List PyStr := entries.map Prod.fst

end JsonObject

/-! ## Schemas -/

def draft202012 : PyStr := py "https://json-schema.org/draft/2020-12/schema"

mutual

/-- `_reject_external_references` does not raise. -/
def referencesLocal : JsonValue → Bool
  | .list items => itemsLocal items
  | .dict entries => entriesLocal entries
  | _ => true

def itemsLocal : List JsonValue → Bool
  | [] => true
  | item :: items => referencesLocal item && itemsLocal items

def entriesLocal : List (PyStr × JsonValue) → Bool
  | [] => true
  | (key, value) :: entries =>
      (match value with
      | .str target =>
          !(key = py "$ref" || key = py "$dynamicRef") || decide (py "#" <+: target)
      | _ => true) &&
      referencesLocal value && entriesLocal entries

end

/-- The fields are the checks of the constructor; the text is canonical because
`canonical_json_dumps` wrote it. -/
structure JsonSchema where
  canonicalJson : PyStr
  document : JsonObject
  parsed : ∃ entries, canonicalJson = canonicalJsonDumps (.dict entries) ∧
    parseJsonStrict canonicalJson = some (.dict document)
  draft : ∀ declared, document.get? (py "$schema") = some declared →
    declared = .null ∨ declared = .str draft202012
  localReferences : referencesLocal (.dict document) = true

/-! ## Tools -/

structure FunctionTool where
  name : PyStr
  description : Option PyStr
  parameters : JsonSchema
  strict : Bool
  nameNonBlank : name.strip ≠ []

inductive ToolChoiceMode
  | none
  | auto
  | required
  | named
deriving DecidableEq, Repr

structure ToolChoice where
  mode : ToolChoiceMode
  name : Option PyStr
  nameIff : name.isSome = true ↔ mode = .named
  nameNonBlank : ∀ chosen ∈ name, chosen.strip ≠ []

structure ToolPolicy where
  tools : List FunctionTool
  choice : ToolChoice
  allowParallel : Bool
  namesUnique : (tools.map FunctionTool.name).Nodup
  requiredDeclared : choice.mode = .required → tools ≠ []
  namedDeclared : ∀ name ∈ choice.name, ∃ tool ∈ tools, tool.name = name

namespace ToolPolicy

def getTool (policy : ToolPolicy) (name : PyStr) : Option FunctionTool :=
  policy.tools.find? (·.name = name)

end ToolPolicy

/-! ## The automatic choice -/

theorem automatic_unnamed : (none : Option PyStr).isSome = true ↔ ToolChoiceMode.auto = .named := by
  simp

theorem automatic_nonBlank : ∀ chosen ∈ (none : Option PyStr), chosen.strip ≠ [] := by simp

def ToolChoice.automatic : ToolChoice := ⟨.auto, none, automatic_unnamed, automatic_nonBlank⟩

theorem automatic_required (tools : List FunctionTool) :
    ToolChoice.automatic.mode = .required → tools ≠ [] := by
  simp [ToolChoice.automatic]

theorem automatic_declared (tools : List FunctionTool) :
    ∀ name ∈ ToolChoice.automatic.name, ∃ tool ∈ tools, tool.name = name := by
  simp [ToolChoice.automatic]

def ToolPolicy.automatic (tools : List FunctionTool)
    (namesUnique : (tools.map FunctionTool.name).Nodup) : ToolPolicy :=
  ⟨tools, .automatic, true, namesUnique, automatic_required tools, automatic_declared tools⟩

end ExQServe
