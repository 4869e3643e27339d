import ExQServe.Agent.Tools

/-! # Tool-constraint schema helpers

The local references of `model/tool_constraints.py`. -/

namespace ExQServe.Model

open ExQServe.Search

/-! ## Python integers -/

/-- The code points of the decimal digits zero in Python 3.12; nine more follow each. -/
def decimalZeros : List Nat :=
  [48, 1632, 1776, 1984, 2406, 2534, 2662, 2790, 2918, 3046, 3174, 3302, 3430, 3558,
    3664, 3792, 3872, 4160, 4240, 6112, 6160, 6470, 6608, 6784, 6800, 6992, 7088, 7232,
    7248, 42528, 43216, 43264, 43472, 43504, 43600, 44016, 65296, 66720, 68912, 69734,
    69872, 69942, 70096, 70384, 70736, 70864, 71248, 71360, 71472, 71904, 72016, 72784,
    73040, 73120, 73552, 92768, 92864, 93008, 120782, 120792, 120802, 120812, 120822,
    123200, 123632, 124144, 125264, 130032]

def decimalValue (char : PyChar) : Option Nat :=
  (decimalZeros.find? fun first => decide (first ≤ char.val ∧ char.val < first + 10)).map
    fun first => char.val - first

/-- Digits with single underscores between them, after `value`. -/
def intDigits (value : Nat) : PyStr → Option Nat
  | [] => some value
  | first :: rest =>
      match decimalValue first with
      | some digit => intDigits (10 * value + digit) rest
      | none =>
          match rest with
          | [] => none
          | second :: rest =>
              if first = chr '_' then
                match decimalValue second with
                | some digit => intDigits (10 * value + digit) rest
                | none => none
              else none

/-- The whitespace around an integer: to `int`, the information separators are none. -/
def isIntSpace (char : PyChar) : Bool :=
  char.isSpace && !decide (0x1c ≤ char.val ∧ char.val ≤ 0x1f)

/-- `int(text)`; `none` stands for `ValueError`. -/
def pyInt (text : PyStr) : Option Int :=
  let stripped := (text.dropWhile isIntSpace).rdropWhile isIntSpace
  let negative := decide (stripped.head? = some (chr '-'))
  let body :=
    if negative ∨ stripped.head? = some (chr '+') then stripped.drop 1 else stripped
  if Json.maxIntDigits < body.countP fun char => (decimalValue char).isSome then none
  else
    match body with
    | [] => none
    | first :: rest =>
        match decimalValue first with
        | none => none
        | some digit =>
            (intDigits digit rest).map fun value => if negative then -value else value

example : pyInt (py " -1_0") = some (-10) ∧ pyInt (0x1c :: py "1") = none := by decide

/-! ## Local references -/

/-- `text.replace("~" + escape, replacement)`. -/
def replaceTilde (escape replacement : PyChar) : PyStr → PyStr
  | first :: second :: rest =>
      if first = chr '~' ∧ second = escape then
        replacement :: replaceTilde escape replacement rest
      else first :: replaceTilde escape replacement (second :: rest)
  | short => short

def pointerStep (segment : PyStr) : JsonValue → Option JsonValue
  | .dict entries => JsonObject.get? entries segment
  | .list items =>
      match pyInt segment with
      | none => none
      | some index => if index < 0 then none else items[index.toNat]?
  | _ => none

def resolveQwenRootPointer (rootSchema : JsonObject) (ref : PyStr) : Option JsonValue :=
  if py "#/" <+: ref then
    ((ref.drop 2).splitOn (chr '/')).foldlM (fun current rawSegment =>
      pointerStep (replaceTilde (chr '0') (chr '~')
        (replaceTilde (chr '1') (chr '/') rawSegment)) current) (.dict rootSchema)
  else none

def qwenRefAnnotationKeys : List PyStr :=
  [py "$comment", py "title", py "description", py "default", py "examples",
    py "deprecated", py "readOnly", py "writeOnly"]

def qwenRefExpansionLimit : Nat := 64

/-- `ref.startswith(("#/$defs/", "#/definitions/"))`. -/
def isLocalDefinitionRef (ref : PyStr) : Bool :=
  decide (py "#/$defs/" <+: ref) || decide (py "#/definitions/" <+: ref)

/-- Keys of a schema beside its reference that are no annotations. -/
def semanticSiblings (schema : JsonObject) : List PyStr :=
  schema.keys.filter fun key => !(key = py "$ref" || qwenRefAnnotationKeys.contains key)

def declaredType (schema : JsonObject) : Option PyStr :=
  match schema.get? (py "type") with
  | some (.str typeValue) => some typeValue
  | _ => none

/-- Follow at most `hops` references from `current`. -/
def propertyTypeFrom (rootSchema : JsonObject) :
    Nat → List PyStr → JsonObject → Option PyStr
  | 0, _, current => declaredType current
  | hops + 1, activeRefs, current =>
      match declaredType current with
      | some typeValue => some typeValue
      | none =>
          match current.get? (py "$ref") with
          | some (.str ref) =>
              if !isLocalDefinitionRef ref || semanticSiblings current ≠ [] ||
                  activeRefs.contains ref then none
              else
                match resolveQwenRootPointer rootSchema ref with
                | some (.dict target) =>
                    if (JsonObject.get? target (py "$id")).isSome ∧
                        (JsonObject.get? target (py "type")).isNone then none
                    else propertyTypeFrom rootSchema hops (ref :: activeRefs) target
                | _ => none
          | _ => none

def qwenPropertySchemaType (rootSchema propertySchema : JsonObject) : Option PyStr :=
  propertyTypeFrom rootSchema (qwenRefExpansionLimit + 1) [] propertySchema

end ExQServe.Model
