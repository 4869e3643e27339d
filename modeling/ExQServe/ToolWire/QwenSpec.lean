import ExQServe.ToolWire.Contracts

/-! # Qwen Tool-wire specifications

The static specifications of `tool_wire/controls/qwen.py`. -/

namespace ExQServe.ToolWire

def toolOpenText : PyStr := py "<tool_call>"
def toolCloseText : PyStr := py "</tool_call>"
def functionOpenPrefix : PyStr := py "<function="
def functionCloseText : PyStr := py "</function>"
def parameterOpenPrefix : PyStr := py "<parameter="
def parameterCloseText : PyStr := py "</parameter>"
def nativeParameterClose : PyStr := py "\n</parameter>\n"

def qwenNameForbidden : List PyStr :=
  [py "<", py ">"] ++ PyChar.spaceCodes.map fun code => [Fin.ofNat _ code]

def qwenNameCodec : NameCodec := ⟨"qwen-tag-name-identity", qwenNameForbidden⟩

def singleClose (text : PyStr) (nonempty : text ≠ []) : CloseLanguage where
  forms := [⟨text, [], nonempty⟩]
  nonempty := by simp
  unique := by simp

def qwenRawString : String := "qwen-raw-string"
def qwenJsonStructured : String := "qwen-json-structured"

/-! ## Base -/

def parameterClose : CloseLanguage := singleClose parameterCloseText (by decide)

def commonParameterOpen : NamedTerminal where
  prefixText := parameterOpenPrefix
  nameTerminator := py ">"
  suffixRemainder := []
  prefixNonempty := by decide
  terminatorNonempty := by decide

/-- A raw variant: its value runs to the argument's own close. -/
def rawVariant (argumentOpen : NamedTerminal) (close : CloseLanguage)
    (variantId : String) (codec : ValueCodecKind) : ArgumentFramingVariant where
  variantId := variantId
  argumentOpen := argumentOpen
  argumentClose := close
  valueFraming := ⟨.rawUntil, codec, some close, by simp⟩
  forbiddenClose := by simp

def structuredVariant (argumentOpen : NamedTerminal) (close : CloseLanguage) :
    ArgumentFramingVariant where
  variantId := qwenJsonStructured
  argumentOpen := argumentOpen
  argumentClose := close
  valueFraming := ⟨.structuredEscaped, .json, none, by simp⟩
  forbiddenClose := by simp

def toolOpenTerminal : LiteralTerminal := ⟨toolOpenText, [248058], by decide⟩

def toolCloseLanguage : CloseLanguage where
  forms := [⟨toolCloseText, [248059], by decide⟩]
  nonempty := by simp
  unique := by simp

def functionOpenTerminal : NamedTerminal where
  prefixText := functionOpenPrefix
  nameTerminator := py ">"
  suffixRemainder := []
  prefixNonempty := by decide
  terminatorNonempty := by decide

def qwenFramingSelector : ArgumentFramingSelector where
  selectorId := "qwen-by-schema-type"
  rules := [⟨qwenRawString, ["string"]⟩,
    ⟨qwenJsonStructured, ["integer", "number", "boolean", "object", "array", "null"]⟩]

def qwenBaseToolWireSpec : ToolWireSpec where
  specId := "qwen-tool-wire-static-base-v1"
  toolOpen := toolOpenTerminal
  toolClose := toolCloseLanguage
  functionOpen := functionOpenTerminal
  functionClose := singleClose functionCloseText (by decide)
  functionNameCodec := qwenNameCodec
  argumentNameCodec := qwenNameCodec
  argumentFramings := [rawVariant commonParameterOpen parameterClose qwenRawString .rawString,
    structuredVariant commonParameterOpen parameterClose]
  framingSelector := qwenFramingSelector
  occurrence := ⟨some 1, false, true⟩
  ordering := .permutable
  multiplicity := ⟨some 1, false, 1⟩
  toolEntryChannels := [.text, .reasoning]
  toolExitChannel := .text
  activationTriggers := [⟨"tool-open", toolOpenTerminal⟩]
  framingsNonempty := by simp
  variantIdsUnique := by decide
  functionNameProtected := by decide
  argumentNamesProtected := by decide

/-! ## Production -/

def nativeOpen : NamedTerminal where
  prefixText := parameterOpenPrefix
  nameTerminator := py ">"
  suffixRemainder := py "\n"
  prefixNonempty := by decide
  terminatorNonempty := by decide

def nativeClose : CloseLanguage := singleClose nativeParameterClose (by decide)

def productionRaw : ArgumentFramingVariant :=
  rawVariant nativeOpen nativeClose qwenRawString .rawStringStripJsonStringOrText

def productionStructured : ArgumentFramingVariant := structuredVariant nativeOpen nativeClose

def qwenProductionToolWireSpec : ToolWireSpec :=
  { qwenBaseToolWireSpec with
    specId := "qwen-production-constrained-tool-wire-v1"
    argumentFramings := [productionRaw, productionStructured]
    multiplicity := ⟨none, true, 1⟩
    framingsNonempty := by simp
    variantIdsUnique := by decide
    argumentNamesProtected := by decide }

/-! ## Compatibility -/

def compatibleClose : CloseLanguage where
  forms := [⟨nativeParameterClose, [], by decide⟩, ⟨parameterCloseText, [], by decide⟩]
  nonempty := by simp
  unique := by decide

def compatibleStructured : ArgumentFramingVariant :=
  rawVariant commonParameterOpen compatibleClose qwenJsonStructured .rawJsonOrText

def qwenCompatibilityDecodeToolWireSpec : ToolWireSpec :=
  { qwenBaseToolWireSpec with
    specId := "qwen-compatibility-decode-tool-wire-v1"
    argumentFramings :=
      [rawVariant commonParameterOpen compatibleClose qwenRawString
        .rawStringStripJsonStringOrText, compatibleStructured]
    multiplicity := ⟨none, true, 1⟩
    framingsNonempty := by simp
    variantIdsUnique := by decide
    argumentNamesProtected := by decide }

def qwenUntypedCompatibilityDecodeToolWireSpec : ToolWireSpec :=
  { qwenCompatibilityDecodeToolWireSpec with
    specId := "qwen-untyped-compatibility-decode-tool-wire-v1"
    argumentFramings :=
      [rawVariant commonParameterOpen compatibleClose qwenRawString .rawJsonOrText]
    framingSelector :=
      ⟨"qwen-untyped-json-or-text", [⟨qwenRawString,
        ["string", "integer", "number", "boolean", "object", "array", "null"]⟩]⟩
    framingsNonempty := by simp
    variantIdsUnique := by decide
    argumentNamesProtected := by decide }

end ExQServe.ToolWire
