import ExQServe.Foundation.Cutting
import ExQServe.Model.DeepSeekV4.Blocks

/-! # The DeepSeek-V4 stream parser

`DeepSeekV4IncrementalParser` of `model/deepseek_v4.py`: the thinking envelope, the end of the
sentence and DSML tool blocks. -/

namespace ExQServe.Model.DeepSeekV4

open ExQServe.Search ExQServe.Emission

def newlines : PyStr := py "\n\n"

def toolOpenMarkers : List PyStr := [newlines ++ toolBlockOpen, toolBlockOpen]

def malformedToolOpenMarkers : List PyStr :=
  [newlines ++ malformedToolBlockOpen, malformedToolBlockOpen]

def bareInvokeMarkers : List PyStr := [newlines ++ invokeOpenPrefix, invokeOpenPrefix]

def toolStartMarkers : List PyStr :=
  toolOpenMarkers ++ malformedToolOpenMarkers ++ bareInvokeMarkers

/-- The search for the close of a block carries the scan of a direct payload on where `resumes`
is set, as the source does; else each search scans anew. -/
structure DeepSeekV4Config where
  request : DialectRequest
  startInReasoning : Bool
  context : DeepSeekV4ParserContext
  resumes : Bool
  tagged : request.tag = py "deepseek-v4"

structure DeepSeekV4IncrementalParser where
  buffer : PyStr
  mode : Channel
  channels : ContentChannels
  callIndex : Nat
  inTool : Bool
  bareTool : Bool
  directJsonScanState : DirectJsonScanState
  hadIncompleteTool : Bool
  finished : Bool
deriving DecidableEq

abbrev Parsing := Emitting ParserFailure DeepSeekV4IncrementalParser GenerationEvent

def publishCalls (request : DialectRequest) : Nat → List ParsedCall →
    ParserResult (List GenerationEvent)
  | _, [] => .ok []
  | index, call :: calls =>
      match request.publishCall index call with
      | .error failure => .error failure
      | .ok events => (publishCalls request (index + 1) calls).map (events ++ ·)

namespace DeepSeekV4IncrementalParser

variable (config : DeepSeekV4Config)

def fresh : DeepSeekV4IncrementalParser where
  buffer := []
  mode := if config.startInReasoning then .reasoning else .text
  channels := .closed
  callIndex := 0
  inTool := false
  bareTool := false
  directJsonScanState := .initial
  hadIncompleteTool := false
  finished := false

def markers : List PyStr :=
  [thinkOpen, thinkClose, eos] ++ if config.context.toolsEnabled then toolStartMarkers else []

def emitContent (text : PyStr) : Parsing Unit := fun parser =>
  let (channels, events) := parser.channels.emitContent config.request.requestId parser.mode text
  .ok ⟨(), { parser with channels := channels }, events⟩

def closeChannel : Parsing Unit := fun parser =>
  let (channels, events) := parser.channels.closeChannel config.request.requestId parser.mode
  .ok ⟨(), { parser with channels := channels }, events⟩

def declaredCalls (block : PyStr) : Option (List ParsedCall) :=
  match parseToolBlock block config.context.toolProperties with
  | none => none
  | some calls =>
      if ∀ call ∈ calls, call.name ∈ config.context.toolProperties.keys then some calls else none

def emitToolBlock (block : PyStr) : Parsing Unit := fun parser =>
  let (channels, completed) := parser.channels.closeChannel config.request.requestId parser.mode
  let parser := { parser with channels := channels }
  match declaredCalls config block with
  | none => .ok ⟨(), { parser with hadIncompleteTool := true }, completed⟩
  | some calls =>
      match publishCalls config.request parser.callIndex calls with
      | .error failure => .error failure
      | .ok events =>
          .ok ⟨(), { parser with
            callIndex := parser.callIndex + calls.length
            mode := .text }, completed ++ events⟩

def bareBlock (payload : PyStr) : PyStr :=
  toolBlockOpen ++ py "\n" ++ PyStr.rstrip payload ++ py "\n" ++ toolBlockClose

def processTool : Parsing Bool := fun parser =>
  let searched := findDsmlClose parser.buffer toolBlockClose 0
    (if config.resumes then some parser.directJsonScanState else none)
  match searched.1 with
  | none =>
      .ok ⟨false, { parser with directJsonScanState := searched.2.getD .initial }, []⟩
  | some closeAt =>
      let block := if parser.bareTool then bareBlock (parser.buffer.take closeAt)
        else parser.buffer.take (closeAt + toolBlockClose.length)
      (emitToolBlock config block { parser with
        buffer := parser.buffer.drop (closeAt + toolBlockClose.length)
        inTool := false
        bareTool := false
        directJsonScanState := .initial }).map fun ending => ⟨true, ending.state, ending.log⟩

def enterTool (marker : PyStr) : Parsing Bool := fun parser =>
  let leading := if newlines <+: marker then newlines else []
  let buffer := parser.buffer.drop leading.length
  let malformedWrapper := decide (marker ∈ malformedToolOpenMarkers)
  if malformedWrapper ∧ ¬malformedToolBlockOpen <+: buffer then
    .ok ⟨false, { parser with buffer := buffer, hadIncompleteTool := true }, []⟩
  else
    let buffer := if malformedWrapper then buffer.drop malformedToolBlockOpen.length else buffer
    (closeChannel config { parser with buffer := buffer }).map fun ending =>
      ⟨true, { ending.state with
        mode := .text
        directJsonScanState := .initial
        inTool := true
        bareTool := malformedWrapper || decide (marker ∈ bareInvokeMarkers) }, ending.log⟩

def enter (marker : PyStr) : Parsing Bool := fun parser =>
  if marker = thinkOpen then
    let parser := { parser with buffer := parser.buffer.drop thinkOpen.length }
    if parser.mode = .reasoning then .ok ⟨true, parser, []⟩
    else
      (closeChannel config parser).map fun ending =>
        ⟨true, { ending.state with mode := .reasoning }, ending.log⟩
  else if marker = thinkClose then
    let parser := { parser with buffer := parser.buffer.drop thinkClose.length }
    if parser.mode = .reasoning then
      (closeChannel config parser).map fun ending =>
        ⟨true, { ending.state with mode := .text }, ending.log⟩
    else .ok ⟨true, { parser with mode := .text }, []⟩
  else if marker = eos then
    (closeChannel config { parser with buffer := parser.buffer.drop eos.length }).map fun ending =>
      ⟨true, ending.state, ending.log⟩
  else enterTool config marker parser

def processPlain : Parsing Bool := fun parser =>
  match firstMatch parser.buffer (markers config) with
  | none =>
      let emit := parser.buffer.length - longestPartial (markers config) parser.buffer
      (emitContent config (parser.buffer.take emit) { parser with
        buffer := parser.buffer.drop emit }).map fun ending => ⟨false, ending.state, ending.log⟩
  | some (position, marker) =>
      if 0 < position then
        (emitContent config (parser.buffer.take position) { parser with
          buffer := parser.buffer.drop position }).map fun ending =>
            ⟨true, ending.state, ending.log⟩
      else enter config marker parser

def turn : Parsing Bool := fun parser =>
  if parser.buffer = [] then .ok ⟨false, parser, []⟩
  else if parser.inTool then processTool config parser
  else processPlain config parser

def push (parser : DeepSeekV4IncrementalParser) (chunk : PyStr) : DeepSeekV4IncrementalParser :=
  { parser with buffer := parser.buffer ++ chunk }

/-- What the turns use up: text, and the entry into a tool block. -/
def remaining (parser : DeepSeekV4IncrementalParser) : Nat :=
  2 * parser.buffer.length + if parser.inTool then 0 else 1

/-! ### Runs -/

theorem emitToolBlock_frame {block : PyStr} {parser : DeepSeekV4IncrementalParser}
    {ending : Ending DeepSeekV4IncrementalParser GenerationEvent Unit}
    (emitted : emitToolBlock config block parser = .ok ending) :
    ending.state.buffer = parser.buffer ∧ ending.state.inTool = parser.inTool ∧
      ending.state.bareTool = parser.bareTool ∧ ending.state.finished = parser.finished ∧
        ending.state.directJsonScanState = parser.directJsonScanState := by
  rw [emitToolBlock] at emitted
  dsimp only at emitted
  cases declared : declaredCalls config block with
  | none =>
      rw [declared] at emitted
      cases emitted
      exact ⟨rfl, rfl, rfl, rfl, rfl⟩
  | some calls =>
      rw [declared] at emitted
      dsimp only at emitted
      cases published : publishCalls config.request parser.callIndex calls with
      | error failure =>
          rw [published] at emitted
          cases emitted
      | ok events =>
          rw [published] at emitted
          cases emitted
          exact ⟨rfl, rfl, rfl, rfl, rfl⟩

theorem enterTool_progress {marker : PyStr} {parser : DeepSeekV4IncrementalParser}
    {ending : Ending DeepSeekV4IncrementalParser GenerationEvent Bool}
    (entered : enterTool config marker parser = .ok ending) (progressed : ending.value = true) :
    ending.state.buffer.length ≤ parser.buffer.length ∧ ending.state.inTool = true := by
  have dropped : ∀ {text : PyStr} {size : Nat}, (text.drop size).length ≤ text.length := by
    intro text size
    rw [List.length_drop]
    omega
  rw [enterTool] at entered
  generalize (if newlines <+: marker then newlines else []) = leading at entered
  dsimp only at entered
  by_cases broken : decide (marker ∈ malformedToolOpenMarkers) = true ∧
      ¬malformedToolBlockOpen <+: parser.buffer.drop leading.length
  · rw [if_pos broken] at entered
    cases entered
    cases progressed
  · rw [if_neg broken] at entered
    cases entered
    refine ⟨?_, rfl⟩
    dsimp only
    split
    · exact Nat.le_trans dropped dropped
    · exact dropped

theorem enter_progress {marker : PyStr} {parser : DeepSeekV4IncrementalParser}
    {ending : Ending DeepSeekV4IncrementalParser GenerationEvent Bool}
    (outside : parser.inTool = false) (nonempty : parser.buffer ≠ [])
    (entered : enter config marker parser = .ok ending) (progressed : ending.value = true) :
    remaining ending.state < remaining parser := by
  have positive := List.length_pos_iff.mpr nonempty
  have less : ∀ {state : DeepSeekV4IncrementalParser} {size : Nat}, state.inTool = false →
      state.buffer = parser.buffer.drop size → 0 < size → remaining state < remaining parser := by
    intro state size outsideThen rest some
    rw [remaining, remaining, outsideThen, outside, rest, List.length_drop]
    omega
  rw [enter] at entered
  split at entered
  · dsimp only at entered
    split at entered
    · cases entered
      exact less outside rfl (by decide)
    · cases entered
      exact less outside rfl (by decide)
  · split at entered
    · dsimp only at entered
      split at entered
      · cases entered
        exact less outside rfl (by decide)
      · cases entered
        exact less outside rfl (by decide)
    · split at entered
      · cases entered
        exact less outside rfl (by decide)
      · rcases enterTool_progress config entered progressed with ⟨shorter, inside⟩
        rw [remaining, remaining, inside, outside]
        simp only [if_true, Bool.false_eq_true, if_false]
        omega

theorem turn_progresses : Progresses remaining (turn config) := by
  intro parser ending turned progressed
  rw [turn] at turned
  by_cases empty : parser.buffer = []
  · rw [if_pos empty] at turned
    cases turned
    cases progressed
  · have positive := List.length_pos_iff.mpr empty
    rw [if_neg empty] at turned
    cases inside : parser.inTool with
    | true =>
        rw [inside, if_pos rfl, processTool] at turned
        dsimp only at turned
        split at turned
        · cases turned
          cases progressed
        · rcases map_eq_ok turned with ⟨last, emitted, same⟩
          have frame := emitToolBlock_frame config emitted
          have close : toolBlockClose.length = 19 := by decide
          rw [← same, remaining, remaining]
          dsimp only
          rw [frame.1, frame.2.1, inside, List.length_drop]
          simp only [Bool.false_eq_true, if_false, if_true]
          omega
    | false =>
        rw [inside, if_neg Bool.false_ne_true, processPlain] at turned
        cases found : firstMatch parser.buffer (markers config) with
        | none =>
            rw [found] at turned
            cases turned
            cases progressed
        | some best =>
            rcases best with ⟨position, marker⟩
            rw [found] at turned
            dsimp only at turned
            split at turned
            · rename_i some
              cases turned
              rw [remaining, remaining]
              dsimp only
              rw [List.length_drop]
              omega
            · exact enter_progress config inside empty turned progressed

def machine : Draining ParserFailure DeepSeekV4IncrementalParser GenerationEvent PyChar where
  exhausted := .recursion
  measure := remaining
  turn := turn config
  push := push
  progresses := turn_progresses config
  push_nil parser := by
    rw [push, List.append_nil]
  push_append parser first second := by
    rw [push, push, push, List.append_assoc]

def feed (text : PyStr) : Parsing Unit := fun parser =>
  if parser.finished then .ok ⟨(), parser, []⟩
  else if text = [] then .ok ⟨(), parser, []⟩
  else (machine config).feed text parser

def finish : Parsing Bool := fun parser =>
  if parser.finished then .ok ⟨parser.hadIncompleteTool, parser, []⟩
  else
    let parser := { parser with finished := true }
    let ended : ParserResult (Ending DeepSeekV4IncrementalParser GenerationEvent Unit) :=
      if parser.inTool then
        let left := { parser with buffer := [], inTool := false, bareTool := false }
        if parser.bareTool then emitToolBlock config (bareBlock parser.buffer) left
        else .ok ⟨(), { left with hadIncompleteTool := true }, []⟩
      else if config.context.toolsEnabled ∧ toolBlockOpen <+: parser.buffer then
        .ok ⟨(), { parser with hadIncompleteTool := true, buffer := [] }, []⟩
      else
        let partialToolOpen :=
          if config.context.toolsEnabled then longestPartial toolStartMarkers parser.buffer else 0
        if 0 < partialToolOpen then
          emitContent config (parser.buffer.take (parser.buffer.length - partialToolOpen))
            { parser with buffer := [], hadIncompleteTool := true }
        else emitContent config parser.buffer { parser with buffer := [] }
    match ended with
    | .error failure => .error failure
    | .ok ending =>
        (closeChannel config ending.state).map fun last =>
          ⟨last.state.hadIncompleteTool, last.state, ending.log ++ last.log⟩

def feedChunks : List PyStr → Parsing Unit
  | [] => pure ()
  | chunk :: chunks => do
      feed config chunk
      feedChunks chunks

def run (chunks : List PyStr) :
    ParserResult (Ending DeepSeekV4IncrementalParser GenerationEvent Bool) :=
  (feedChunks config chunks >>= fun _ => finish config) (fresh config)

end DeepSeekV4IncrementalParser

end ExQServe.Model.DeepSeekV4
