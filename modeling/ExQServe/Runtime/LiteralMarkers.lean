import ExQServe.Agent.Json
import ExQServe.Foundation.Dict
import ExQServe.Foundation.Replace
import ExQServe.Model.Qwen.Region

/-! # Literal markers

The model of `runtime/literal_markers.py`: structural markers in the text of a message are
replaced by sentinels before the chat template is rendered, and encoded without special
tokens afterwards. The hash, the table of printable characters and the tokenizer are
parameters. -/

namespace ExQServe.Runtime

open ExQServe.Search ExQServe.Model.Qwen

/-! ## The source -/

inductive PyValue
  | scalar (repr : PyStr)
  | str (text : PyStr)
  | list (items : List PyValue)
  | dict (entries : List (PyValue × PyValue))

/-- `str.isprintable` and SHA-256, as far as they matter here. -/
structure TextServices where
  printable : PyChar → Bool
  sha256Hexdigest : PyStr → PyStr
  printableAscii : ∀ char : PyChar, 0x20 ≤ char.val → char.val < 0x7f → printable char = true
  hexadecimal : ∀ text, ∀ char ∈ sha256Hexdigest text, char ∈ py "0123456789abcdef"

namespace PyValue

/-- `"\x.."`, `"\u...."` or `"\U........"`. -/
def escapeCode (char : PyChar) : PyStr :=
  let digits := fun width => (List.range width).reverse.map fun position =>
    Json.hexDigit (char.val / 16 ^ position % 16)
  if char.val < 0x100 then py "\\x" ++ digits 2
  else if char.val < 0x10000 then py "\\u" ++ digits 4
  else py "\\U" ++ digits 8

def reprChar (services : TextServices) (quote char : PyChar) : PyStr :=
  if char = quote ∨ char = chr '\\' then [chr '\\', char]
  else if char = chr '\t' then py "\\t"
  else if char = chr '\n' then py "\\n"
  else if char = chr '\r' then py "\\r"
  else if services.printable char then [char]
  else escapeCode char

def reprQuote (text : PyStr) : PyChar :=
  if text.contains (chr '\'') && !text.contains (chr '"') then chr '"' else chr '\''

def reprText (services : TextServices) (text : PyStr) : PyStr :=
  reprQuote text :: text.flatMap (reprChar services (reprQuote text)) ++ [reprQuote text]

def joinItems : List PyStr → PyStr
  | [] => []
  | [part] => part
  | part :: rest => part ++ py ", " ++ joinItems rest

mutual

def repr (services : TextServices) : PyValue → PyStr
  | .scalar repr => repr
  | .str text => reprText services text
  | .list items => py "[" ++ joinItems (reprItems services items) ++ py "]"
  | .dict entries => py "\x7b" ++ joinItems (reprEntries services entries) ++ py "\x7d"

def reprItems (services : TextServices) : List PyValue → List PyStr
  | [] => []
  | item :: items => repr services item :: reprItems services items

def reprEntries (services : TextServices) : List (PyValue × PyValue) → List PyStr
  | [] => []
  | (key, value) :: entries =>
      (repr services key ++ py ": " ++ repr services value) :: reprEntries services entries

end

inductive Holds (text : PyStr) : PyValue → Prop
  | here : Holds text (.str text)
  | item {items : List PyValue} {item : PyValue} (inside : item ∈ items) (holds : Holds text item) :
      Holds text (.list items)
  | key {entries : List (PyValue × PyValue)} {key value : PyValue} (inside : (key, value) ∈ entries)
      (holds : Holds text key) : Holds text (.dict entries)
  | value {entries : List (PyValue × PyValue)} {key value : PyValue}
      (inside : (key, value) ∈ entries) (holds : Holds text value) : Holds text (.dict entries)

end PyValue

/-- `repr((messages, tools))`, where `tools` is a list or `None`. -/
def sourceRepr (services : TextServices) (messages tools : PyValue) : PyStr :=
  py "(" ++ messages.repr services ++ py ", " ++ tools.repr services ++ py ")"

/-! ## Sentinels -/

inductive LiteralFailure
  | unicodeEncode
  | backend
  | typeError (message : String)
  | valueError (message : String)
deriving DecidableEq, Repr

def sentinelStem (services : TextServices) (index : Nat) (marker : PyStr) : PyStr :=
  py "__EXQSERVE_STRUCTURAL_LITERAL_" ++ pyNat index ++ py "_" ++
    (services.sha256Hexdigest marker).take 16 ++ py "__"

/-- `while taken: sentinel += "_"`, which ends once the sentinel is longer than the source. -/
def padSentinel (taken : PyStr → Bool) : Nat → PyStr → PyStr
  | 0, sentinel => sentinel
  | fuel + 1, sentinel =>
      if taken sentinel then padSentinel taken fuel (sentinel ++ py "_") else sentinel

def sentinelTaken (source : PyStr) (result : Dict PyStr PyStr) (sentinel : PyStr) : Bool :=
  decide (sentinel <:+: source) || (result.entries.map Prod.snd).contains sentinel

def markerSentinelsFrom (services : TextServices) (source : PyStr) :
    Nat → List PyStr → Dict PyStr PyStr → Except LiteralFailure (Dict PyStr PyStr)
  | _, [], result => .ok result
  | index, marker :: markers, result =>
      if !marker.utf8Encodable then .error .unicodeEncode
      else
        let sentinel := padSentinel (sentinelTaken source result) (source.length + 1)
          (sentinelStem services index marker)
        markerSentinelsFrom services source (index + 1) markers (result.set marker sentinel)

def markerSentinels (services : TextServices) (messages tools : PyValue) (markers : List PyStr) :
    Except LiteralFailure (Dict PyStr PyStr) :=
  markerSentinelsFrom services (sourceRepr services messages tools) 0 markers .empty

/-! ## Protection -/

/-- `sorted(sentinels, key=len, reverse=True)`, with the sentinels. -/
def longestFirst (sentinels : Dict PyStr PyStr) : List (PyStr × PyStr) :=
  sentinels.entries.insertionSort fun left right => right.1.length ≤ left.1.length

def protectText (text : PyStr) (sentinels : Dict PyStr PyStr) : PyStr :=
  (longestFirst sentinels).foldl
    (fun protectedText entry => replaceAll entry.1 entry.2 protectedText) text

def restoreText (text : PyStr) (sentinels : Dict PyStr PyStr) : PyStr :=
  sentinels.entries.foldl (fun restored entry => replaceAll entry.2 entry.1 restored) text

/-! ## Encoding -/

inductive BackendToken
  | int (value : Int)
  | other
deriving DecidableEq, Repr

inductive BackendRow
  | tokens (row : List BackendToken)
  | other
deriving DecidableEq, Repr

inductive BackendEncoding
  | raised
  | withoutToList
  | rows (rows : List BackendRow)
  | other
deriving DecidableEq, Repr

/-- `encode(text, encode_special_tokens=special, embeddings=embeddings)` -/
structure TextCodec (ε : Type) where
  encode : PyStr → Bool → Option ε → BackendEncoding

def BackendToken.id? : BackendToken → Option Nat
  | .int value => if 0 ≤ value then some value.toNat else none
  | .other => none

variable {ε : Type}

def encodedIds (codec : TextCodec ε) (text : PyStr) (special : Bool) (embeddings : Option ε) :
    Except LiteralFailure (List Nat) :=
  if text = [] then .ok []
  else
    match codec.encode text special embeddings with
    | .raised => .error .backend
    | .withoutToList => .error (.typeError "backend tokenizer encode result must provide tolist()")
    | .rows [.tokens row] =>
        match row.mapM BackendToken.id? with
        | some ids => .ok ids
        | none => .error (.typeError "backend tokenizer produced invalid token ids")
    | _ => .error (.valueError "backend tokenizer encode result must contain exactly one sequence")

def literalIds (codec : TextCodec ε) (marker : PyStr) : Except LiteralFailure (List Nat) := do
  if marker.length < 2 ∨ marker.head? ≠ some (chr '<') then
    throw (.valueError
      "literal marker text must begin with '<' and contain more than one character")
  else
    let first ← encodedIds codec (marker.take 1) false none
    let rest ← encodedIds codec (marker.drop 1) false none
    return first ++ rest

/-- `{sentinel: marker for marker, sentinel in sentinels.items()}` -/
def sentinelToMarker (sentinels : Dict PyStr PyStr) : Dict PyStr PyStr :=
  sentinels.entries.foldl (fun inverted entry => inverted.set entry.2 entry.1) .empty

def sentinelMatches (text : PyStr) (sentinels : List PyStr) : List (Nat × PyStr) :=
  sentinels.filterMap fun sentinel => (find sentinel text).map fun position => (position, sentinel)

/-- `min(matches, key=...)`: the first of the earliest. -/
def earliest : List (Nat × PyStr) → Option (Nat × PyStr)
  | [] => none
  | found :: others =>
      match earliest others with
      | none => some found
      | some other => if other.1 < found.1 then some other else some found

def encodeFrom (codec : TextCodec ε) (inverted : Dict PyStr PyStr) (embeddings : Option ε) :
    Nat → PyStr → Except LiteralFailure (PyStr × List Nat)
  | 0, _ => .ok ([], [])
  | fuel + 1, text =>
      if text = [] then .ok ([], [])
      else
        match earliest (sentinelMatches text inverted.keys) with
        | none => do
            let ids ← encodedIds codec text true embeddings
            return (text, ids)
        | some (position, sentinel) => do
            let ids ← encodedIds codec (text.take position) true embeddings
            let marker := (inverted.get? sentinel).getD []
            let literal ← literalIds codec marker
            let (visible, rest) ← encodeFrom codec inverted embeddings fuel
              (text.drop (position + sentinel.length))
            return (text.take position ++ marker ++ visible, ids ++ literal ++ rest)

/-- Every pass of the loop consumes a sentinel, so the length of the text bounds them. -/
def encodeProtectedPrompt (codec : TextCodec ε) (protectedText : PyStr)
    (sentinels : Dict PyStr PyStr) (embeddings : Option ε) :
    Except LiteralFailure (PyStr × List Nat) :=
  encodeFrom codec (sentinelToMarker sentinels) embeddings protectedText.length protectedText

end ExQServe.Runtime
