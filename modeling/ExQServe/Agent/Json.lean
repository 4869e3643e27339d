import ExQServe.Agent.Float

/-! # Strict JSON

The model of `agent/_json.py`: JSON values as Python holds them, the strict
parser (no duplicate keys, no non-finite numbers, bounded integers) and the
canonical writer. The interpreter's recursion limit is not modelled. -/

namespace ExQServe

/-- A JSON value in Python. A `dict` keeps its insertion order. -/
inductive JsonValue
  | null
  | bool (value : Bool)
  | int (value : Int)
  | float (value : PyFloat)
  | str (value : PyStr)
  | list (items : List JsonValue)
  | dict (entries : List (PyStr × JsonValue))

namespace Json

/-! ## Lexical rules -/

def isWhitespace (char : PyChar) : Bool :=
  char == chr ' ' || char == chr '\t' || char == chr '\n' || char == chr '\r'

def skipWhitespace (text : PyStr) : PyStr := text.dropWhile isWhitespace

def isAsciiDigit (char : PyChar) : Bool := decide (48 ≤ char.val ∧ char.val ≤ 57)

def digitsValue (digits : PyStr) : Nat :=
  digits.foldl (fun value char => 10 * value + (char.val - 48)) 0

def hexValue (char : PyChar) : Option Nat :=
  if 48 ≤ char.val ∧ char.val ≤ 57 then some (char.val - 48)
  else if 65 ≤ char.val ∧ char.val ≤ 70 then some (char.val - 55)
  else if 97 ≤ char.val ∧ char.val ≤ 102 then some (char.val - 87)
  else none

def hexUnit (first second third fourth : PyChar) : Option (Fin 0x10000) :=
  match hexValue first, hexValue second, hexValue third, hexValue fourth with
  | some a, some b, some c, some d =>
      some (Fin.ofNat 0x10000 (((a * 16 + b) * 16 + c) * 16 + d))
  | _, _, _, _ => none

def unitChar (unit : Fin 0x10000) : PyChar := unit.castLE (by decide)

def joinSurrogates (high low : PyChar) : PyChar :=
  Fin.ofNat 0x110000 (0x10000 + (high.val - 0xd800) * 0x400 + (low.val - 0xdc00))

def simpleEscape (char : PyChar) : Option PyChar :=
  if char = chr '"' then some (chr '"')
  else if char = chr '\\' then some (chr '\\')
  else if char = chr '/' then some (chr '/')
  else if char = chr 'b' then some 8
  else if char = chr 'f' then some 12
  else if char = chr 'n' then some 10
  else if char = chr 'r' then some 13
  else if char = chr 't' then some 9
  else none

/-- A character of a string literal, and whether a `\u` escape stands for it. -/
abbrev StringUnit := Bool × PyChar

/-- The rest of a string after its opening quote: its characters and what
follows the closing quote. -/
def scanStringUnits : PyStr → Option (List StringUnit × PyStr)
  | [] => none
  | char :: rest =>
      if char = chr '"' then some ([], rest)
      else if char = chr '\\' then
        match rest with
        | [] => none
        | escape :: after =>
            if escape = chr 'u' then
              match after with
              | a :: b :: c :: d :: tail =>
                  match hexUnit a b c d with
                  | none => none
                  | some unit =>
                      (scanStringUnits tail).map fun found =>
                        ((true, unitChar unit) :: found.1, found.2)
              | _ => none
            else
              match simpleEscape escape with
              | none => none
              | some value =>
                  (scanStringUnits after).map fun found =>
                    ((false, value) :: found.1, found.2)
      else if char.val < 0x20 then none
      else (scanStringUnits rest).map fun found => ((false, char) :: found.1, found.2)

/-- Two adjacent surrogate escapes are one code point; a lone one is kept. -/
def joinUnits : List StringUnit → PyStr
  | [] => []
  | [unit] => [unit.2]
  | high :: low :: rest =>
      if high.1 ∧ low.1 ∧ high.2.isHighSurrogate ∧ low.2.isLowSurrogate then
        joinSurrogates high.2 low.2 :: joinUnits rest
      else
        high.2 :: joinUnits (low :: rest)

def scanString (text : PyStr) : Option (PyStr × PyStr) :=
  (scanStringUnits text).map fun found => (joinUnits found.1, found.2)

/-- Digits of an integer literal that `int` accepts by default. -/
def maxIntDigits : Nat := 4300

def scanFraction (text : PyStr) : PyStr × PyStr :=
  match text with
  | point :: rest =>
      if point = chr '.' ∧ rest.takeWhile isAsciiDigit ≠ [] then
        (rest.takeWhile isAsciiDigit, rest.dropWhile isAsciiDigit)
      else
        ([], text)
  | [] => ([], text)

def scanExponent (text : PyStr) : Option Int × PyStr :=
  match text with
  | mark :: rest =>
      if mark = chr 'e' ∨ mark = chr 'E' then
        let negative := rest.head? = some (chr '-')
        let signed := negative ∨ rest.head? = some (chr '+')
        let body := if signed then rest.drop 1 else rest
        let digits := body.takeWhile isAsciiDigit
        if digits = [] then (none, text)
        else
          let value : Int := digitsValue digits
          (some (if negative then -value else value), body.dropWhile isAsciiDigit)
      else
        (none, text)
  | [] => (none, text)

def scanIntegerPart (text : PyStr) : Option (PyStr × PyStr) :=
  match text with
  | first :: rest =>
      if first = chr '0' then some ([first], rest)
      else if isAsciiDigit first then
        some (text.takeWhile isAsciiDigit, text.dropWhile isAsciiDigit)
      else
        none
  | [] => none

def scanNumber (text : PyStr) : Option (JsonValue × PyStr) :=
  let negative := decide (text.head? = some (chr '-'))
  let body := if negative then text.drop 1 else text
  match scanIntegerPart body with
  | none => none
  | some (integer, afterInteger) =>
      let fraction := scanFraction afterInteger
      let exponent := scanExponent fraction.2
      if fraction.1 = [] ∧ exponent.1 = none then
        if maxIntDigits < integer.length then none
        else
          let value : Int := digitsValue integer
          some (.int (if negative then -value else value), afterInteger)
      else
        let digits := digitsValue (integer ++ fraction.1)
        let scale := exponent.1.getD 0 - fraction.1.length
        (PyFloat.ofDecimal negative digits scale).map fun value =>
          (.float value, exponent.2)

def scanName (text : PyStr) : Option (JsonValue × PyStr) :=
  if py "null" <+: text then some (.null, text.drop 4)
  else if py "true" <+: text then some (.bool true, text.drop 4)
  else if py "false" <+: text then some (.bool false, text.drop 5)
  else none

/-! ## Values

Every call spends one unit of fuel, and a value needs at most two for each of
its characters. -/

mutual

def scanValue : Nat → PyStr → Option (JsonValue × PyStr)
  | 0, _ => none
  | fuel + 1, text =>
      match text with
      | [] => none
      | first :: rest =>
          if first = chr '"' then
            (scanString rest).map fun found => (.str found.1, found.2)
          else if first = chr '[' then
            let inside := skipWhitespace rest
            if inside.head? = some (chr ']') then some (.list [], inside.drop 1)
            else (scanItems fuel inside).map fun found => (.list found.1, found.2)
          else if first = chr '{' then
            let inside := skipWhitespace rest
            if inside.head? = some (chr '}') then some (.dict [], inside.drop 1)
            else
              match scanEntries fuel inside with
              | none => none
              | some (entries, after) =>
                  -- `_object_from_pairs` refuses a repeated member name
                  if (entries.map Prod.fst).Nodup then some (.dict entries, after) else none
          else if first = chr '-' ∨ isAsciiDigit first then scanNumber text
          else scanName text

def scanItems : Nat → PyStr → Option (List JsonValue × PyStr)
  | 0, _ => none
  | fuel + 1, text =>
      match scanValue fuel text with
      | none => none
      | some (item, after) =>
          match skipWhitespace after with
          | [] => none
          | next :: rest =>
              if next = chr ']' then some ([item], rest)
              else if next = chr ',' then
                (scanItems fuel (skipWhitespace rest)).map fun found =>
                  (item :: found.1, found.2)
              else none

def scanEntries : Nat → PyStr → Option (List (PyStr × JsonValue) × PyStr)
  | 0, _ => none
  | fuel + 1, text =>
      match text with
      | [] => none
      | quote :: rest =>
          if quote = chr '"' then
            match scanString rest with
            | none => none
            | some (key, afterKey) =>
                match skipWhitespace afterKey with
                | [] => none
                | colon :: afterColon =>
                    if colon = chr ':' then
                      match scanValue fuel (skipWhitespace afterColon) with
                      | none => none
                      | some (value, after) =>
                          match skipWhitespace after with
                          | [] => none
                          | next :: rest' =>
                              if next = chr '}' then some ([(key, value)], rest')
                              else if next = chr ',' then
                                (scanEntries fuel (skipWhitespace rest')).map fun found =>
                                  ((key, value) :: found.1, found.2)
                              else none
                    else none
          else none

end

/-! ## Writer -/

def hexDigit (value : Nat) : PyChar :=
  if value < 10 then Fin.ofNat _ (48 + value) else Fin.ofNat _ (87 + value)

def escapeChar (char : PyChar) : PyStr :=
  if char = chr '"' then py "\\\""
  else if char = chr '\\' then py "\\\\"
  else if char.val = 8 then py "\\b"
  else if char.val = 12 then py "\\f"
  else if char.val = 10 then py "\\n"
  else if char.val = 13 then py "\\r"
  else if char.val = 9 then py "\\t"
  else if char.val < 0x20 then
    py "\\u00" ++ [hexDigit (char.val / 16), hexDigit (char.val % 16)]
  else [char]

def dumpsString (value : PyStr) : PyStr :=
  chr '"' :: value.flatMap escapeChar ++ py "\""

def dumpsInt (value : Int) : PyStr :=
  if value < 0 then chr '-' :: decimalDigits value.natAbs else decimalDigits value.natAbs

/-- Lexicographic order of code points, Python's order of strings. -/
def keyLe : PyStr → PyStr → Bool
  | [], _ => true
  | _ :: _, [] => false
  | left :: lefts, right :: rights =>
      if left = right then keyLe lefts rights else decide (left.val < right.val)

def insertByKey (entry : PyStr × β) : List (PyStr × β) → List (PyStr × β)
  | [] => [entry]
  | head :: rest =>
      if keyLe entry.1 head.1 then entry :: head :: rest
      else head :: insertByKey entry rest

def sortByKey : List (PyStr × β) → List (PyStr × β)
  | [] => []
  | entry :: rest => insertByKey entry (sortByKey rest)

theorem insertByKey_perm (entry : PyStr × β) (entries : List (PyStr × β)) :
    (insertByKey entry entries).Perm (entry :: entries) := by
  induction entries with
  | nil => exact .refl _
  | cons head rest induction =>
      rw [insertByKey]
      split
      · exact .refl _
      · exact (induction.cons head).trans (.swap entry head rest)

theorem sortByKey_perm (entries : List (PyStr × β)) : (sortByKey entries).Perm entries := by
  induction entries with
  | nil => exact .refl _
  | cons entry rest induction => exact (insertByKey_perm entry _).trans (induction.cons entry)

def joinComma : List PyStr → PyStr
  | [] => []
  | [part] => part
  | part :: rest => part ++ chr ',' :: joinComma rest

end Json

open Json in
/-- `parse_json_strict` on a decoder that is deep enough for the text; `none` stands for
`InvalidJsonError`. -/
def parseJsonStrict (text : PyStr) : Option JsonValue :=
  match scanValue (2 * text.length + 1) (skipWhitespace text) with
  | none => none
  | some (value, after) => if skipWhitespace after = [] then some value else none

mutual

/-- How deep the containers of a value stand in each other. -/
def JsonValue.nesting : JsonValue → Nat
  | .list items => itemsNesting items + 1
  | .dict entries => entriesNesting entries + 1
  | _ => 0

def itemsNesting : List JsonValue → Nat
  | [] => 0
  | item :: items => max item.nesting (itemsNesting items)

def entriesNesting : List (PyStr × JsonValue) → Nat
  | [] => 0
  | (_, value) :: entries => max value.nesting (entriesNesting entries)

end

/-- `parse_json_strict` on a decoder that follows so many containers into each other. Behind
them it raises `RecursionError`, and the text is refused like one that is not JSON. -/
def parseJsonStrictWithin (depth : Nat) (text : PyStr) : Option JsonValue :=
  (parseJsonStrict text).filter fun value => decide (value.nesting ≤ depth)

theorem parseJsonStrictWithin_eq_some {depth : Nat} {text : PyStr} {value : JsonValue} :
    parseJsonStrictWithin depth text = some value ↔
      parseJsonStrict text = some value ∧ value.nesting ≤ depth := by
  rw [parseJsonStrictWithin, Option.filter_eq_some_iff, decide_eq_true_eq]

open Json in
mutual

/-- `canonical_json_dumps`: sorted keys, no spaces, no ASCII escaping. -/
def canonicalJsonDumps : JsonValue → PyStr
  | .null => py "null"
  | .bool true => py "true"
  | .bool false => py "false"
  | .int value => dumpsInt value
  | .float value => value.repr
  | .str value => dumpsString value
  | .list items => chr '[' :: joinComma (dumpsItems items) ++ py "]"
  | .dict entries =>
      chr '{' :: joinComma ((sortByKey (dumpsEntries entries)).map fun entry =>
        dumpsString entry.1 ++ chr ':' :: entry.2) ++ py "\x7d"

def dumpsItems : List JsonValue → List PyStr
  | [] => []
  | item :: items => canonicalJsonDumps item :: dumpsItems items

def dumpsEntries : List (PyStr × JsonValue) → List (PyStr × PyStr)
  | [] => []
  | (key, value) :: entries => (key, canonicalJsonDumps value) :: dumpsEntries entries

end

/-- `canonical_utf8_json_dumps`; `none` stands for `InvalidJsonError`. -/
def canonicalUtf8JsonDumps (value : JsonValue) : Option PyStr :=
  let serialized := canonicalJsonDumps value
  if serialized.utf8Encodable then some serialized else none

/-- Members are sorted by key and strings keep their code points. -/
example : (parseJsonStrict (py "\x7b\"b\": [1, -2.50], \"a\": \"\\u0041\"\x7d")).map
    canonicalJsonDumps =
      some (py "\x7b\"a\":\"A\",\"b\":[1,-2.5]\x7d") := by decide +kernel

/-- A repeated member name is refused. -/
example : (parseJsonStrict (py "\x7b\"a\":1,\"a\":2\x7d")).isNone = true := by
  decide +kernel

end ExQServe
