import ExQServe.Foundation.TaggedText
import ExQServe.Model.Glm5.Chunking

/-! # The Step 3.5 stream parser

`Step3p5IncrementalParser` of `model/step3p5.py`: the GLM-5 parser without tools, started in
reasoning, with one newline trimmed on each side of `</think>`. -/

namespace ExQServe.Model.Step3p5

open ExQServe.Search ExQServe.Emission ExQServe.Model.Glm5

def newline : PyChar := chr '\n'

def parserConfig (request : DialectRequest) (tagged : request.tag = py "glm5") : Glm5Config where
  request := request
  startInReasoning := true
  context := ⟨false, .empty⟩
  tagged := tagged

structure Step3p5IncrementalParser where
  base : Glm5IncrementalParser
  pendingReasoningNewline : Bool
  trimLeadingTextNewline : Bool
deriving DecidableEq

abbrev Parsing := Emitting ParserFailure Step3p5IncrementalParser GenerationEvent

namespace Step3p5IncrementalParser

variable (config : Glm5Config)

def fresh : Step3p5IncrementalParser := ⟨.fresh config, false, false⟩

def superEmit (channel : Channel) (text : PyStr) (parser : Step3p5IncrementalParser) :
    Step3p5IncrementalParser × List GenerationEvent :=
  let (channels, events) :=
    parser.base.channels.emitContent config.request.requestId channel text
  ({ parser with base := { parser.base with channels := channels } }, events)

def withPending (text : PyStr) (parser : Step3p5IncrementalParser) : PyStr :=
  if parser.pendingReasoningNewline then newline :: text else text

def emitReasoning (text : PyStr) (parser : Step3p5IncrementalParser) :
    Step3p5IncrementalParser × List GenerationEvent :=
  if text.getLast? = some newline then
    superEmit config .reasoning text.dropLast { parser with pendingReasoningNewline := true }
  else superEmit config .reasoning text { parser with pendingReasoningNewline := false }

def emitText (text : PyStr) (parser : Step3p5IncrementalParser) :
    Step3p5IncrementalParser × List GenerationEvent :=
  if parser.trimLeadingTextNewline then
    superEmit config .text (if text.head? = some newline then text.tail else text)
      { parser with trimLeadingTextNewline := false }
  else superEmit config .text text parser

def emitContent (channel : Channel) (text : PyStr) (parser : Step3p5IncrementalParser) :
    Step3p5IncrementalParser × List GenerationEvent :=
  if text = [] then (parser, [])
  else
    match channel with
    | .reasoning => emitReasoning config (withPending text parser) parser
    | .text => emitText config text parser

def withBuffer (buffer : PyStr) (parser : Step3p5IncrementalParser) : Step3p5IncrementalParser :=
  { parser with base := { parser.base with buffer := buffer } }

/-- `super()._process_plain`, with this class's `_emit_content` -/
def superProcessPlain (channel : Channel) : Parsing Bool := fun parser =>
  match firstMatch parser.base.buffer (Glm5IncrementalParser.markers config) with
  | some (position, marker) =>
      if 0 < position then
        let (shown, events) := emitContent config channel (parser.base.buffer.take position) parser
        .ok ⟨true, withBuffer (parser.base.buffer.drop position) shown, events⟩
      else (Glm5IncrementalParser.enter config channel marker parser.base).map fun ending =>
        ⟨true, { parser with base := ending.state }, ending.log⟩
  | none =>
      let keep := longestPartial (Glm5IncrementalParser.markers config) parser.base.buffer
      let emitLength := parser.base.buffer.length - keep
      if 0 < emitLength then
        let (shown, events) :=
          emitContent config channel (parser.base.buffer.take emitLength) parser
        .ok ⟨true, withBuffer (parser.base.buffer.drop emitLength) shown, events⟩
      else .ok ⟨false, parser, []⟩

def closingReasoning (channel : Channel) (parser : Step3p5IncrementalParser) : Bool :=
  decide (channel = .reasoning) && decide (thinkClose <+: parser.base.buffer)

def processPlain (channel : Channel) : Parsing Bool := fun parser =>
  if closingReasoning channel parser then
    (superProcessPlain config channel { parser with pendingReasoningNewline := false }).map
      fun ending =>
        if ending.state.base.mode = .content .text then
          ⟨ending.value, { ending.state with trimLeadingTextNewline := true }, ending.log⟩
        else ending
  else superProcessPlain config channel parser

def turn : Parsing Bool := fun parser =>
  match parser.base.mode with
  | .tool => (Glm5IncrementalParser.processTool config parser.base).map fun ending =>
      ⟨ending.value, { parser with base := ending.state }, ending.log⟩
  | .content channel => processPlain config channel parser

def push (parser : Step3p5IncrementalParser) (chunk : PyStr) : Step3p5IncrementalParser :=
  { parser with base := parser.base.push chunk }

/-! ### Runs -/

theorem withBuffer_buffer (buffer : PyStr) (parser : Step3p5IncrementalParser) :
    (withBuffer buffer parser).base.buffer = buffer := rfl

theorem superProcessPlain_progress {channel : Channel} {parser : Step3p5IncrementalParser}
    {ending : Ending Step3p5IncrementalParser GenerationEvent Bool}
    (processed : superProcessPlain config channel parser = .ok ending)
    (progressed : ending.value = true) :
    ending.state.base.buffer.length < parser.base.buffer.length := by
  rw [superProcessPlain] at processed
  cases found : firstMatch parser.base.buffer (Glm5IncrementalParser.markers config) with
  | some best =>
      rcases best with ⟨position, marker⟩
      have firstAt := firstAt_of_firstMatch found
      have nonempty :=
        (Glm5IncrementalParser.markers_endFree config).nonempty marker firstAt.member
      have bound := firstAt.occurs.end_le nonempty
      have positive := List.length_pos_iff.mpr nonempty
      rw [found] at processed
      dsimp only at processed
      split at processed
      · cases processed
        rw [withBuffer_buffer, List.length_drop]
        omega
      · rcases map_eq_ok processed with ⟨last, entered, same⟩
        have rest := Glm5IncrementalParser.enter_progress config entered
        rw [← same]
        dsimp only
        rw [rest, List.length_drop]
        omega
  | none =>
      rw [found] at processed
      dsimp only at processed
      split at processed
      · cases processed
        rw [withBuffer_buffer, List.length_drop]
        omega
      · cases processed
        cases progressed

theorem turn_progresses :
    Progresses (fun parser : Step3p5IncrementalParser => parser.base.buffer.length)
      (turn config) := by
  intro parser ending turned progressed
  rw [turn] at turned
  cases mode : parser.base.mode with
  | tool =>
      rw [mode] at turned
      rcases map_eq_ok turned with ⟨last, processed, same⟩
      rw [← same] at progressed ⊢
      have base : Glm5IncrementalParser.turn config parser.base = .ok last := by
        rw [Glm5IncrementalParser.turn, mode]
        exact processed
      exact Glm5IncrementalParser.turn_progresses config parser.base last base progressed
  | content channel =>
      rw [mode] at turned
      dsimp only at turned
      rw [processPlain] at turned
      split at turned
      · rcases map_eq_ok turned with ⟨last, processed, same⟩
        rw [← same] at progressed ⊢
        split at progressed
        · rename_i text
          rw [if_pos text]
          exact @superProcessPlain_progress config channel
            { parser with pendingReasoningNewline := false } last processed progressed
        · rename_i other
          rw [if_neg other]
          exact @superProcessPlain_progress config channel
            { parser with pendingReasoningNewline := false } last processed progressed
      · exact superProcessPlain_progress config turned progressed

def machine : Draining ParserFailure Step3p5IncrementalParser GenerationEvent PyChar where
  exhausted := .recursion
  measure parser := parser.base.buffer.length
  turn := turn config
  push := push
  progresses := turn_progresses config
  push_nil parser := by
    rw [push, Glm5IncrementalParser.push, List.append_nil]
  push_append parser first second := by
    simp only [push, Glm5IncrementalParser.push, List.append_assoc]

def feed (chunk : PyStr) : Parsing Unit := fun parser =>
  if parser.base.finished then .error (.runtimeError "cannot feed a finished GLM-5 parser")
  else (machine config).feed chunk parser

def superFinish : Parsing Bool := fun parser =>
  if parser.base.finished then .ok ⟨parser.base.hadIncompleteTool, parser, []⟩
  else
    match parser.base.mode with
    | .tool =>
        .ok ⟨true, { parser with base := { parser.base with
          hadIncompleteTool := true
          buffer := []
          toolBody := []
          mode := .content .text
          finished := true } }, []⟩
    | .content channel =>
        let dropped :=
          [thinkOpen, thinkClose].any fun marker => decide (parser.base.buffer <+: marker)
        let cutTool :=
          config.context.toolsEnabled && decide (parser.base.buffer <+: toolOpen)
        let content := if dropped || cutTool then [] else parser.base.buffer
        let incomplete := parser.base.hadIncompleteTool || (!dropped && cutTool)
        let (filled, deltas) := emitContent config channel content parser
        let (channels, completed) :=
          filled.base.channels.closeChannel config.request.requestId channel
        .ok ⟨incomplete, { filled with base := { filled.base with
          buffer := []
          channels := channels
          hadIncompleteTool := incomplete
          finished := true } }, deltas ++ completed⟩

def finish : Parsing Bool := fun parser =>
  if parser.base.mode = .content .reasoning ∧ parser.pendingReasoningNewline = true then
    let (shown, front) :=
      superEmit config .reasoning [newline] { parser with pendingReasoningNewline := false }
    (superFinish config shown).map (Ending.after front)
  else superFinish config parser

def feedChunks : List PyStr → Parsing Unit
  | [] => pure ()
  | chunk :: chunks => do
      feed config chunk
      feedChunks chunks

def run (chunks : List PyStr) :
    ParserResult (Ending Step3p5IncrementalParser GenerationEvent Bool) :=
  (feedChunks config chunks >>= fun _ => finish config) (fresh config)

end Step3p5IncrementalParser

end ExQServe.Model.Step3p5
