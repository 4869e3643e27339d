import ExQServe.Foundation.Markers
import ExQServe.Foundation.Text

/-! # Scanning DSML

The finders of `model/deepseek_v4.py`: closes outside JSON strings, the end of a direct JSON
payload with its resumable state, and the close of a tool block or an invoke. -/

namespace ExQServe.Model.DeepSeekV4

open ExQServe.Search

def thinkOpen : PyStr := py "<think>"
def thinkClose : PyStr := py "</think>"
def eos : PyStr := py "<｜end▁of▁sentence｜>"
def toolBlockOpen : PyStr := py "<｜DSML｜tool_calls>"
def toolBlockClose : PyStr := py "</｜DSML｜tool_calls>"
def malformedToolBlockOpen : PyStr := py "<｜DSML｜toolcalls>"
def invokeOpenPrefix : PyStr := py "<｜DSML｜invoke name=\""
def invokeClose : PyStr := py "</｜DSML｜invoke>"
def parameterOpenPrefix : PyStr := py "<｜DSML｜parameter name=\""
def parameterClose : PyStr := py "</｜DSML｜parameter>"

def quoteClose : PyStr := py "\">"

def stringFlag : PyStr := py "\" string=\""

def findWithin (pattern source : PyStr) (start stop : Nat) : Option Nat :=
  findFrom pattern (source.take stop) start

/-! ## JSON strings -/

/-- Whether the scan is in a string literal, and behind a backslash in it. -/
structure QuoteState where
  inString : Bool
  escaped : Bool
deriving DecidableEq, Repr

namespace QuoteState

def outside : QuoteState := ⟨false, false⟩

def step (state : QuoteState) (char : PyChar) : QuoteState :=
  if state.inString then
    if state.escaped then { state with escaped := false }
    else if char = chr '\\' then { state with escaped := true }
    else if char = chr '"' then { state with inString := false }
    else state
  else if char = chr '"' then { state with inString := true }
  else state

end QuoteState

/-- The first occurrence that does not start in a string literal. -/
def findOutside (pattern : PyStr) : QuoteState → PyStr → Option Nat
  | _, [] => none
  | state, char :: rest =>
      if state.inString = false ∧ pattern <+: char :: rest then some 0
      else (findOutside pattern (state.step char) rest).map (· + 1)

/-- The loop over the characters of a JSON value, from `start` on. -/
def findOutsideStrings (pattern source : PyStr) (start : Nat) : Option Nat :=
  (findOutside pattern .outside (source.drop start)).map (start + ·)

def findJsonParameterClose (source : PyStr) (start : Nat) : Option Nat :=
  findOutsideStrings parameterClose source start

/-! ## Direct JSON payloads -/

/-- `_DirectJsonScanState`; the last open bracket comes first. -/
structure DirectJsonScanState where
  payloadStart : Option Nat
  cursor : Nat
  stack : List PyChar
  quotes : QuoteState
  payloadEnd : Option Nat
deriving DecidableEq

namespace DirectJsonScanState

def initial : DirectJsonScanState := ⟨none, 0, [], .outside, none⟩

def start (position : Nat) : DirectJsonScanState := ⟨some position, position, [], .outside, none⟩

def step (state : DirectJsonScanState) (char : PyChar) : DirectJsonScanState :=
  let next := { state with
    cursor := state.cursor + 1
    quotes := state.quotes.step char }
  if state.quotes.inString then next
  else if char = chr '\x7b' ∨ char = chr '[' then { next with stack := char :: state.stack }
  else if char = chr '\x7d' ∨ char = chr ']' then
    match state.stack with
    | [] => { next with payloadEnd := some next.cursor }
    | top :: below =>
        if top ≠ (if char = chr '\x7d' then chr '\x7b' else chr '[') then
          { next with payloadEnd := some next.cursor }
        else if below = [] then { next with stack := [], payloadEnd := some next.cursor }
        else { next with stack := below }
  else next

def scan : DirectJsonScanState → PyStr → DirectJsonScanState
  | state, [] => state
  | state, char :: rest =>
      let next := state.step char
      if next.payloadEnd.isSome then next else scan next rest

end DirectJsonScanState

/-- `_find_json_object_end`, with the state that is carried on; `none` for a scan without one. -/
def findJsonObjectEnd (source : PyStr) (start : Nat) (state : Option DirectJsonScanState) :
    Option Nat × Option DirectJsonScanState :=
  if source[start]? ≠ some (chr '\x7b') then (none, state)
  else
    let held := state.getD .initial
    let begun := if held.payloadStart = some start then held else .start start
    let scanned := if begun.payloadEnd.isSome then begun
      else begun.scan (source.drop begun.cursor)
    (scanned.payloadEnd, state.map fun _ => scanned)

/-- `_direct_json_payload_span`: `none` for an invoke without a direct payload, else the end of
its payload if it is there. -/
def directJsonPayloadSpan (source : PyStr) (invokeAt : Nat) (state : Option DirectJsonScanState) :
    Option (Option Nat) × Option DirectJsonScanState :=
  match findFrom quoteClose source (invokeAt + invokeOpenPrefix.length) with
  | none => (none, state)
  | some nameEnd =>
      let payloadStart := nameEnd + 2 +
        ((source.drop (nameEnd + 2)).takeWhile PyChar.isSpace).length
      if source[payloadStart]? ≠ some (chr '\x7b') then (none, state)
      else
        let found := findJsonObjectEnd source payloadStart state
        (some found.1, found.2)

/-! ## Closes -/

inductive CloseStep
  | found (position : Nat)
  | missing
  | resume (cursor : Nat)
deriving DecidableEq, Repr

def parameterStep (source marker : PyStr) (markerAt parameterAt : Nat) : CloseStep :=
  match findFrom stringFlag source (parameterAt + parameterOpenPrefix.length) with
  | none => .found markerAt
  | some keyEnd =>
      if markerAt < keyEnd then .found markerAt
      else
        let flagStart := keyEnd + stringFlag.length
        match findFrom quoteClose source flagStart with
        | none => .found markerAt
        | some flagEnd =>
            if markerAt < flagEnd then .found markerAt
            else if source.slice flagStart flagEnd = py "true" then
              match findFrom parameterClose source (flagEnd + 2) with
              | none => .found markerAt
              | some close =>
                  if markerAt ≤ close then .found markerAt
                  else .resume (close + parameterClose.length)
            else if source.slice flagStart flagEnd = py "false" then
              match findJsonParameterClose source (flagEnd + 2) with
              | none => .missing
              | some close =>
                  if marker = parameterClose then .found close
                  else
                    match findOutsideStrings marker source (flagEnd + 2) with
                    | some position =>
                        if position < close then .found position
                        else .resume (close + parameterClose.length)
                    | none => .resume (close + parameterClose.length)
            else .found markerAt

/-- An invoke starts before the marker and before every parameter. -/
def leadingInvoke (source : PyStr) (cursor markerAt : Nat) : Option Nat :=
  match findWithin invokeOpenPrefix source cursor markerAt with
  | none => none
  | some invokeAt =>
      match findWithin parameterOpenPrefix source cursor markerAt with
      | none => some invokeAt
      | some parameterAt => if invokeAt < parameterAt then some invokeAt else none

/-- A turn of the search behind the check for a direct payload. -/
def taggedStep (source marker : PyStr) (cursor markerAt : Nat) : CloseStep :=
  match findWithin parameterOpenPrefix source cursor markerAt with
  | none => .found markerAt
  | some parameterAt => parameterStep source marker markerAt parameterAt

def closeStep (source marker : PyStr) (cursor : Nat) (state : Option DirectJsonScanState) :
    CloseStep × Option DirectJsonScanState :=
  match findFrom marker source cursor with
  | none => (.missing, state)
  | some markerAt =>
      match leadingInvoke source cursor markerAt with
      | none => (taggedStep source marker cursor markerAt, state)
      | some invokeAt =>
          match directJsonPayloadSpan source invokeAt state with
          | (some (some payloadEnd), state) => (.resume payloadEnd, state)
          | (some none, state) => (.missing, state)
          | (none, state) => (taggedStep source marker cursor markerAt, state)

def findDsmlCloseFrom (source marker : PyStr) : Nat → Nat → Option DirectJsonScanState →
    Option Nat × Option DirectJsonScanState
  | 0, _, state => (none, state)
  | turns + 1, cursor, state =>
      if source.length ≤ cursor then (none, state)
      else
        match closeStep source marker cursor state with
        | (.found position, state) => (some position, state)
        | (.missing, state) => (none, state)
        | (.resume cursor, state) => findDsmlCloseFrom source marker turns cursor state

/-- `_find_dsml_close_outside_json_parameters`. The cursor moves on in every turn, so that the
length of the source bounds them. -/
def findDsmlClose (source marker : PyStr) (start : Nat) (state : Option DirectJsonScanState) :
    Option Nat × Option DirectJsonScanState :=
  findDsmlCloseFrom source marker (source.length + 1) start state

end ExQServe.Model.DeepSeekV4
