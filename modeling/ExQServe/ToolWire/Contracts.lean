import ExQServe.Agent.Json

/-! # Tool-wire contracts

The model of `tool_wire/contracts.py`. Python checks each record when it is
built; a record here carries those checks as fields. -/

namespace ExQServe.ToolWire

open ExQServe.Search

def structuralWsCharacters : List PyChar := [chr ' ', chr '\t', chr '\r', chr '\n']

def structuralWsMax : Nat := 8

def isStructuralWs (char : PyChar) : Bool := structuralWsCharacters.contains char

/-- `pattern in text` for strings. -/
def contains (pattern text : PyStr) : Bool := (find pattern text).isSome

/-! ## Vocabulary -/

inductive WireChannel
  | text
  | reasoning
  | tool
deriving DecidableEq, Repr

inductive ValueFramingKind
  | structuredEscaped
  | rawUntil
  | dialectStructured
deriving DecidableEq, Repr

inductive ValueCodecKind
  | rawString
  | rawStringStripJsonStringOrText
  | rawJsonOrText
  | json
  | dialect
deriving DecidableEq, Repr

namespace ValueCodecKind

/-- `none` stands for `ValueError`. -/
def decodeRawPayload (codec : ValueCodecKind) (wirePayload : PyStr) : Option PyStr :=
  match codec with
  | rawString => some wirePayload
  | rawStringStripJsonStringOrText =>
      let normalized := wirePayload.strip
      let decoded :=
        match parseJsonStrict normalized with
        | some (.str parsed) => parsed
        | _ => normalized
      if decoded.utf8Encodable then some decoded else none
  | _ => none

end ValueCodecKind

inductive ArgumentOrderingMode
  | declarationOrder
  | permutable
deriving DecidableEq, Repr

inductive ConstraintValueMode
  | anySafeRaw
  | finiteValues
  | structuredFormat
  | structuredSchema
  | validationOnly
deriving DecidableEq, Repr

inductive PlanCompileDisposition
  | constrainedExecutable
  | validationOnly
  | rejected
deriving DecidableEq, Repr

inductive GenerationGuarantee
  | none
  | format
  | schema
  | unknown
deriving DecidableEq, Repr

/-! ## Terminals and codecs -/

structure LiteralTerminal where
  text : PyStr
  nativeTokenIds : List Nat
  nonempty : text ≠ []
deriving DecidableEq

structure NamedTerminal where
  prefixText : PyStr
  nameTerminator : PyStr
  suffixRemainder : PyStr
  prefixNonempty : prefixText ≠ []
  terminatorNonempty : nameTerminator ≠ []
deriving DecidableEq

structure NameCodec where
  codecId : String
  forbiddenSequences : List PyStr
deriving DecidableEq

namespace NameCodec

/-- `none` stands for `ValueError`. -/
def encode (_ : NameCodec) (name : PyStr) : Option PyStr :=
  if name = [] then none else some name

/-- `none` stands for `ValueError`. -/
def decode (_ : NameCodec) (wireName : PyStr) : Option PyStr :=
  if wireName = [] then none else some wireName

/-- The codec round trip, and the first terminator ends the name field. -/
def isLosslesslyRepresentableForTerminal (codec : NameCodec) (name : PyStr)
    (terminal : NamedTerminal) : Bool :=
  match codec.encode name with
  | none => false
  | some encoded =>
      match codec.decode encoded with
      | none => false
      | some decoded =>
          if decoded ≠ name ∨ codec.forbiddenSequences.any (contains · encoded) then false
          else
            decide (find terminal.nameTerminator (encoded ++ terminal.nameTerminator) =
              some encoded.length)

def protectsNamedTerminal (codec : NameCodec) (terminal : NamedTerminal) : Bool :=
  codec.forbiddenSequences.contains terminal.nameTerminator

end NameCodec

structure CloseLanguage where
  forms : List LiteralTerminal
  nonempty : forms ≠ []
  unique : (forms.map LiteralTerminal.text).Nodup
deriving DecidableEq

def CloseLanguage.texts (close : CloseLanguage) : List PyStr :=
  close.forms.map LiteralTerminal.text

theorem CloseLanguage.text_ne_nil {close : CloseLanguage} {text : PyStr}
    (member : text ∈ close.texts) : text ≠ [] := by
  rcases List.mem_map.mp member with ⟨form, _, rfl⟩
  exact form.nonempty

structure ValueFraming where
  kind : ValueFramingKind
  codec : ValueCodecKind
  forbiddenCloseLanguage : Option CloseLanguage
  closeIff : forbiddenCloseLanguage.isSome = true ↔ kind = .rawUntil
deriving DecidableEq

structure ArgumentFramingVariant where
  variantId : String
  argumentOpen : NamedTerminal
  argumentClose : CloseLanguage
  valueFraming : ValueFraming
  forbiddenClose : ∀ close, valueFraming.forbiddenCloseLanguage = some close →
    close = argumentClose
deriving DecidableEq

structure ArgumentFramingSelectorRule where
  variantId : String
  schemaTypes : List String
deriving DecidableEq

structure ArgumentFramingSelector where
  selectorId : String
  rules : List ArgumentFramingSelectorRule
deriving DecidableEq

structure ArgumentOccurrenceCapabilities where
  maxOccurrencesPerName : Option Nat
  duplicateNamesLegal : Bool
  optionalOmission : Bool
deriving DecidableEq

structure ToolMultiplicity where
  maxCallsPerSequence : Option Nat
  adjacentTools : Bool
  minCallsPerSequence : Nat
deriving DecidableEq

structure ActivationTriggerSpec where
  triggerId : String
  terminal : LiteralTerminal
deriving DecidableEq

/-! ## Specification -/

structure ToolWireSpec where
  specId : String
  toolOpen : LiteralTerminal
  toolClose : CloseLanguage
  functionOpen : NamedTerminal
  functionClose : CloseLanguage
  functionNameCodec : NameCodec
  argumentNameCodec : NameCodec
  argumentFramings : List ArgumentFramingVariant
  framingSelector : ArgumentFramingSelector
  occurrence : ArgumentOccurrenceCapabilities
  ordering : ArgumentOrderingMode
  multiplicity : ToolMultiplicity
  toolEntryChannels : List WireChannel
  toolExitChannel : WireChannel
  activationTriggers : List ActivationTriggerSpec
  framingsNonempty : argumentFramings ≠ []
  variantIdsUnique : (argumentFramings.map ArgumentFramingVariant.variantId).Nodup
  functionNameProtected : functionNameCodec.protectsNamedTerminal functionOpen = true
  argumentNamesProtected : ∀ variant ∈ argumentFramings,
    argumentNameCodec.protectsNamedTerminal variant.argumentOpen = true
deriving DecidableEq

namespace ToolWireSpec

/-- `none` stands for `KeyError`. -/
def framingVariant (spec : ToolWireSpec) (variantId : String) :
    Option ArgumentFramingVariant :=
  spec.argumentFramings.find? (·.variantId = variantId)

end ToolWireSpec

/-! ## Compiled plan -/

structure ArgumentBranchPlan where
  name : PyStr
  required : Bool
  wireRequired : Bool
  generated : Bool
  schemaJson : PyStr
  generationSchemaJson : Option PyStr
  presentationIndex : Nat
  framingVariantId : Option String
  valueMode : ConstraintValueMode
  admittedWirePayloads : Option (List PyStr)
  guarantee : GenerationGuarantee
  nameNonempty : name ≠ []
  requiredOnWire : required = true → wireRequired = true
  generationSchemaIff : generationSchemaJson.isSome = true ↔
    generated = true ∧ (valueMode = .structuredFormat ∨ valueMode = .structuredSchema)
  payloadsFinite : admittedWirePayloads.isSome = true → valueMode = .finiteValues
  guaranteeIff : generated = true ↔ guarantee = .format ∨ guarantee = .schema
deriving DecidableEq

structure ArgumentOrderPlan where
  orders : List (List PyStr)
  fullOrderCount : Option Nat
  narrowed : Bool
  optionalNames : List PyStr
  ordersNonempty : orders ≠ []
  optionalDeclared : ∀ name ∈ optionalNames, ∃ order ∈ orders, name ∈ order
deriving DecidableEq

namespace ArgumentOrderPlan

/-- Match `names` with one declared order, skipping optional names. -/
def acceptsOrder (optionalNames : List PyStr) : List PyStr → List PyStr → Bool
  | [], names => names.isEmpty
  | name :: order, names =>
      if names.head? = some name then acceptsOrder optionalNames order names.tail
      else if optionalNames.contains name then acceptsOrder optionalNames order names
      else false

def accepts (plan : ArgumentOrderPlan) (names : List PyStr) : Bool :=
  plan.orders.any fun order => acceptsOrder plan.optionalNames order names

def firstOrder (plan : ArgumentOrderPlan) : List PyStr :=
  plan.orders.head plan.ordersNonempty

end ArgumentOrderPlan

structure ToolBranchPlan where
  toolName : PyStr
  strict : Bool
  representable : Bool
  arguments : List ArgumentBranchPlan
  orderPlan : ArgumentOrderPlan
  guarantee : GenerationGuarantee
  nameNonempty : toolName ≠ []
  argumentNamesUnique : (arguments.map ArgumentBranchPlan.name).Nodup
deriving DecidableEq

theorem noLimit_positive : ∀ limit : Nat, none = some limit → 0 < limit := by simp

theorem noTools_unique : (([] : List ToolBranchPlan).map ToolBranchPlan.toolName).Nodup :=
  List.nodup_nil

/-- The plan's fingerprint of its specification is a SHA-256 digest, taken to
identify the specification. -/
structure CompiledToolWirePlan where
  specFingerprint : ToolWireSpec
  allowParallel : Bool
  tools : List ToolBranchPlan
  disposition : PlanCompileDisposition
  maxCallsPerSequence : Option Nat
  maxCallsPositive : ∀ limit, maxCallsPerSequence = some limit → 0 < limit
  toolNamesUnique : (tools.map ToolBranchPlan.toolName).Nodup
deriving DecidableEq

namespace CompiledToolWirePlan

/-- `none` stands for `KeyError`. -/
def tool (plan : CompiledToolWirePlan) (toolName : PyStr) : Option ToolBranchPlan :=
  plan.tools.find? (·.toolName = toolName)

end CompiledToolWirePlan

/-! ## Decoded calls -/

structure WireArgumentOccurrence where
  name : PyStr
  canonicalValueJson : PyStr
  framingVariantId : Option String
deriving DecidableEq

structure WireToolCall where
  name : PyStr
  index : Nat
  occurrences : List WireArgumentOccurrence
deriving DecidableEq

structure WireToolSequence where
  calls : List WireToolCall
deriving DecidableEq

end ExQServe.ToolWire
