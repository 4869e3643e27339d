import ExQServe.Foundation.Cutting
import ExQServe.Foundation.Markers
import ExQServe.Model.Content
import ExQServe.Model.Glm5.Schema

/-! # The GLM-5 stream parser

`Glm5IncrementalParser` of `model/glm5.py`: the reasoning envelope, the tool calls and the
decoding of their arguments. -/

namespace ExQServe.Model.Glm5

open ExQServe.Search ExQServe.Emission

def thinkOpen : PyStr := py "<think>"
def thinkClose : PyStr := py "</think>"
def toolOpen : PyStr := py "<tool_call>"
def toolClose : PyStr := py "</tool_call>"
def argKeyOpen : PyStr := py "<arg_key>"
def argKeyClose : PyStr := py "</arg_key>"
def argValueOpen : PyStr := py "<arg_value>"
def argValueClose : PyStr := py "</arg_value>"

/-! ## Tool bodies -/

def decodeArgument (raw : PyStr) (schemaTypes : Option (List PyStr)) : JsonValue :=
  let stripped := raw.strip
  let parsed := (parseJsonStrict stripped).getD (.str raw)
  match schemaTypes with
  | none => parsed
  | some types =>
      if py "string" ∈ types ∧ ∀ type ∈ types, type = py "string" ∨ type = py "null" then
        if stripped = py "null" ∧ py "null" ∈ types then .null else .str raw
      else parsed

def parseArguments (types : PyStr → Option (List PyStr)) :
    Nat → PyStr → JsonObject → Option JsonObject
  | 0, _, _ => none
  | fuel + 1, text, arguments =>
      let text := text.lstrip
      if text = [] then some arguments
      else if ¬argKeyOpen <+: text then none
      else
        let afterOpen := text.drop argKeyOpen.length
        match find argKeyClose afterOpen with
        | none => none
        | some keyEnd =>
            let key := PyStr.strip (afterOpen.take keyEnd)
            if key = [] ∨ key ∈ arguments.keys then none
            else
              let rest := PyStr.lstrip (afterOpen.drop (keyEnd + argKeyClose.length))
              if ¬argValueOpen <+: rest then none
              else
                let afterValue := rest.drop argValueOpen.length
                match find argValueClose afterValue with
                | none => none
                | some valueEnd =>
                    let value := decodeArgument (afterValue.take valueEnd) (types key)
                    parseArguments types fuel
                      (afterValue.drop (valueEnd + argValueClose.length))
                      (arguments ++ [(key, value)])

def forbiddenInName (char : PyChar) : Bool :=
  char.isSpace || char == chr '<' || char == chr '>'

theorem nonBlank_of_name {name : PyStr}
    (valid : ¬(name = [] ∨ name.any forbiddenInName = true)) : NonBlank name := by
  cases name with
  | nil => exact absurd (.inl rfl) valid
  | cons char name =>
      apply nonBlank_iff.mpr
      refine ⟨char, List.mem_cons_self, ?_⟩
      cases space : char.isSpace with
      | false => rfl
      | true =>
          apply absurd (.inr ?_) valid
          rw [List.any_cons, forbiddenInName, space]
          rfl

/-- `_parse_tool_body`; `none` stands for the `ValueError`. -/
def parseToolBody (body : PyStr) (parameterTypes : ParameterTypes) : Option ParsedCall :=
  match find argKeyOpen body with
  | none =>
      let name := body.strip
      if invalid : name = [] ∨ name.any forbiddenInName = true then none
      else some ⟨name, py "\x7b\x7d", nonBlank_of_name invalid⟩
  | some firstKey =>
      let name := PyStr.strip (body.take firstKey)
      if invalid : name = [] ∨ name.any forbiddenInName = true then none
      else
        let types := fun key => (((parameterTypes.get? name).getD .empty).get? key).getD none
        match parseArguments types (body.length + 1) (body.drop firstKey) [] with
        | none => none
        | some arguments =>
            some ⟨name, canonicalJsonDumps (.dict arguments), nonBlank_of_name invalid⟩

/-! ## The parser -/

inductive Glm5Mode
  | content (channel : Channel)
  | tool
deriving DecidableEq, Repr

structure Glm5Config where
  request : DialectRequest
  startInReasoning : Bool
  context : Glm5ParserContext
  tagged : request.tag = py "glm5"

/-- `_tool_return_mode` is only ever `"text"`. -/
structure Glm5IncrementalParser where
  buffer : PyStr
  mode : Glm5Mode
  channels : ContentChannels
  toolBody : PyStr
  callIndex : Nat
  hadIncompleteTool : Bool
  finished : Bool
deriving DecidableEq

abbrev Parsing := Emitting ParserFailure Glm5IncrementalParser GenerationEvent

namespace Glm5IncrementalParser

variable (config : Glm5Config)

def fresh : Glm5IncrementalParser where
  buffer := []
  mode := .content (if config.startInReasoning then .reasoning else .text)
  channels := .closed
  toolBody := []
  callIndex := 0
  hadIncompleteTool := false
  finished := false

def markers : List PyStr :=
  if config.context.toolsEnabled then [thinkOpen, thinkClose, toolOpen]
  else [thinkOpen, thinkClose]

def enter (channel : Channel) (marker : PyStr) : Parsing Unit := fun parser =>
  let (channels, events) := parser.channels.closeChannel config.request.requestId channel
  let parser := { parser with
    buffer := parser.buffer.drop marker.length
    channels := channels }
  if marker = thinkOpen then .ok ⟨(), { parser with mode := .content .reasoning }, events⟩
  else if marker = thinkClose then .ok ⟨(), { parser with mode := .content .text }, events⟩
  else .ok ⟨(), { parser with mode := .tool, toolBody := [] }, events⟩

def processPlain (channel : Channel) : Parsing Bool := fun parser =>
  match firstMatch parser.buffer (markers config) with
  | some (position, marker) =>
      if 0 < position then
        let (channels, events) := parser.channels.emitContent config.request.requestId channel
          (parser.buffer.take position)
        .ok ⟨true, { parser with
          channels := channels
          buffer := parser.buffer.drop position }, events⟩
      else (enter config channel marker parser).map fun ending => ⟨true, ending.state, ending.log⟩
  | none =>
      let keep := longestPartial (markers config) parser.buffer
      let emitLength := parser.buffer.length - keep
      if 0 < emitLength then
        let (channels, events) := parser.channels.emitContent config.request.requestId channel
          (parser.buffer.take emitLength)
        .ok ⟨true, { parser with
          channels := channels
          buffer := parser.buffer.drop emitLength }, events⟩
      else .ok ⟨false, parser, []⟩

def finishTool : Parsing Unit := fun parser =>
  let after := { parser with toolBody := [], mode := .content .text }
  match parseToolBody parser.toolBody config.context.parameterTypes with
  | none => .ok ⟨(), { after with hadIncompleteTool := true }, []⟩
  | some call =>
      match config.request.publishCall parser.callIndex call with
      | .error failure => .error failure
      | .ok events => .ok ⟨(), { after with callIndex := parser.callIndex + 1 }, events⟩

def processTool : Parsing Bool := fun parser =>
  match find toolClose parser.buffer with
  | some closeAt =>
      (finishTool config { parser with
        toolBody := parser.toolBody ++ parser.buffer.take closeAt
        buffer := parser.buffer.drop (closeAt + toolClose.length) }).map fun ending =>
          ⟨true, ending.state, ending.log⟩
  | none =>
      let keep := longestPartial [toolClose] parser.buffer
      let consume := parser.buffer.length - keep
      if 0 < consume then
        .ok ⟨true, { parser with
          toolBody := parser.toolBody ++ parser.buffer.take consume
          buffer := parser.buffer.drop consume }, []⟩
      else .ok ⟨false, parser, []⟩

def turn : Parsing Bool := fun parser =>
  match parser.mode with
  | .tool => processTool config parser
  | .content channel => processPlain config channel parser

def push (parser : Glm5IncrementalParser) (chunk : PyStr) : Glm5IncrementalParser :=
  { parser with buffer := parser.buffer ++ chunk }

/-! ### Runs -/

theorem enter_progress {channel : Channel} {marker : PyStr} {parser : Glm5IncrementalParser}
    {ending : Ending Glm5IncrementalParser GenerationEvent Unit}
    (entered : enter config channel marker parser = .ok ending) :
    ending.state.buffer = parser.buffer.drop marker.length := by
  rw [enter] at entered
  dsimp only at entered
  split at entered
  · cases entered
    rfl
  · split at entered
    · cases entered
      rfl
    · cases entered
      rfl

theorem finishTool_progress {parser : Glm5IncrementalParser}
    {ending : Ending Glm5IncrementalParser GenerationEvent Unit}
    (finished : finishTool config parser = .ok ending) : ending.state.buffer = parser.buffer := by
  rw [finishTool] at finished
  dsimp only at finished
  cases parsed : parseToolBody parser.toolBody config.context.parameterTypes with
  | none =>
      rw [parsed] at finished
      cases finished
      rfl
  | some call =>
      rw [parsed] at finished
      dsimp only at finished
      cases published : config.request.publishCall parser.callIndex call with
      | error failure =>
          rw [published] at finished
          cases finished
      | ok events =>
          rw [published] at finished
          cases finished
          rfl

theorem markers_endFree : EndFree (markers config) := by
  rw [markers]
  cases config.context.toolsEnabled with
  | true => decide
  | false => decide

theorem turn_progresses :
    Progresses (fun parser : Glm5IncrementalParser => parser.buffer.length) (turn config) := by
  intro parser ending turned progressed
  rw [turn] at turned
  cases mode : parser.mode with
  | tool =>
      rw [mode] at turned
      dsimp only at turned
      rw [processTool] at turned
      cases found : find toolClose parser.buffer with
      | some closeAt =>
          rw [found] at turned
          rcases map_eq_ok turned with ⟨last, finished, same⟩
          have rest := finishTool_progress config finished
          have bound := (find_eq_some found).1.end_le (by decide)
          have close : toolClose.length = 12 := rfl
          rw [← same]
          dsimp only
          rw [rest]
          dsimp only
          rw [List.length_drop]
          omega
      | none =>
          rw [found] at turned
          dsimp only at turned
          split at turned
          · cases turned
            dsimp only
            rw [List.length_drop]
            omega
          · cases turned
            cases progressed
  | content channel =>
      rw [mode] at turned
      dsimp only at turned
      rw [processPlain] at turned
      cases found : firstMatch parser.buffer (markers config) with
      | some best =>
          rcases best with ⟨position, marker⟩
          have firstAt := firstAt_of_firstMatch found
          have nonempty := (markers_endFree config).nonempty marker firstAt.member
          have bound := firstAt.occurs.end_le nonempty
          have positive := List.length_pos_iff.mpr nonempty
          rw [found] at turned
          dsimp only at turned
          split at turned
          · cases turned
            dsimp only
            rw [List.length_drop]
            omega
          · rcases map_eq_ok turned with ⟨last, entered, same⟩
            have rest := enter_progress config entered
            rw [← same]
            dsimp only
            rw [rest, List.length_drop]
            omega
      | none =>
          rw [found] at turned
          dsimp only at turned
          split at turned
          · cases turned
            dsimp only
            rw [List.length_drop]
            omega
          · cases turned
            cases progressed

def machine : Draining ParserFailure Glm5IncrementalParser GenerationEvent PyChar where
  exhausted := .recursion
  measure parser := parser.buffer.length
  turn := turn config
  push := push
  progresses := turn_progresses config
  push_nil parser := by
    rw [push, List.append_nil]
  push_append parser first second := by
    rw [push, push, push, List.append_assoc]

def feed (chunk : PyStr) : Parsing Unit := fun parser =>
  if parser.finished then .error (.runtimeError "cannot feed a finished GLM-5 parser")
  else (machine config).feed chunk parser

def finish : Parsing Bool := fun parser =>
  if parser.finished then .ok ⟨parser.hadIncompleteTool, parser, []⟩
  else
    match parser.mode with
    | .tool =>
        .ok ⟨true, { parser with
          hadIncompleteTool := true
          buffer := []
          toolBody := []
          mode := .content .text
          finished := true }, []⟩
    | .content channel =>
        let dropped := [thinkOpen, thinkClose].any fun marker => decide (parser.buffer <+: marker)
        let cutTool := config.context.toolsEnabled && decide (parser.buffer <+: toolOpen)
        let content := if dropped || cutTool then [] else parser.buffer
        let incomplete := parser.hadIncompleteTool || (!dropped && cutTool)
        let (filled, deltas) :=
          parser.channels.emitContent config.request.requestId channel content
        let (channels, completed) := filled.closeChannel config.request.requestId channel
        .ok ⟨incomplete, { parser with
          buffer := []
          channels := channels
          hadIncompleteTool := incomplete
          finished := true }, deltas ++ completed⟩

def feedChunks : List PyStr → Parsing Unit
  | [] => pure ()
  | chunk :: chunks => do
      feed config chunk
      feedChunks chunks

def run (chunks : List PyStr) :
    ParserResult (Ending Glm5IncrementalParser GenerationEvent Bool) :=
  (feedChunks config chunks >>= fun _ => finish config) (fresh config)

end Glm5IncrementalParser

end ExQServe.Model.Glm5
