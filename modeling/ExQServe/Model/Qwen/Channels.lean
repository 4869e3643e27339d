import ExQServe.Model.Content
import ExQServe.Model.Qwen.Plain

/-! # What the channel operations do

The runs of the operations that open, fill and close a channel, as states and
logs, and the merging of deltas under which pieces of a text equal the whole. -/

namespace ExQServe.Model.Qwen

open ExQServe.Search ExQServe.Emission Emitting

variable {δ : Type} (config : ParserConfig δ)

/-! ## Merging deltas -/

/-- The same in a log; nothing merges across a mark. -/
def actionJoining : Joining ParserAction :=
  .ofPieces (fun action => action.event?.bind deltaPiece)
    (fun kind text => .emitted (wholeDelta kind text)) deltaPiece_wholeDelta

theorem mergeDeltas_eventsOf (log : List ParserAction) :
    mergeDeltas (eventsOf (actionJoining.merge log)) = mergeDeltas (eventsOf log) := by
  refine actionJoining.merge_filterMap deltaJoining _ ?_ log
  intro first second joined joins
  cases first with
  | switched marker => cases joins
  | enteredTool => cases joins
  | emitted first =>
      cases second with
      | switched marker =>
          rcases Option.bind_eq_some_iff.mp joins with ⟨left, -, none⟩
          cases none
      | enteredTool =>
          rcases Option.bind_eq_some_iff.mp joins with ⟨left, -, none⟩
          cases none
      | emitted second =>
          rcases Option.bind_eq_some_iff.mp joins with ⟨left, leftPiece, joins⟩
          rcases Option.bind_eq_some_iff.mp joins with ⟨right, rightPiece, joins⟩
          have same : left.1 = right.1 := by
            by_contra different
            rw [if_neg different] at joins
            cases joins
          rw [if_pos same] at joins
          cases joins
          refine ⟨first, second, wholeDelta left.1 (left.2 ++ right.2), rfl, rfl, rfl, ?_⟩
          refine Option.bind_eq_some_iff.mpr ⟨left, leftPiece, ?_⟩
          exact Option.bind_eq_some_iff.mpr ⟨right, rightPiece, if_pos same⟩

/-! ## Channels -/

namespace QwenIncrementalParser

def withContent (parser : QwenIncrementalParser δ) (text : PyStr) : QwenIncrementalParser δ :=
  if text = [] then parser
  else if parser.mode = .reasoning then
    { parser with
      markerBoundaries := parser.markerBoundaries.observeContent text
      reasoningOpen := true
      reasoningValue := (if parser.reasoningOpen then parser.reasoningValue else []) ++ text }
  else
    { parser with
      markerBoundaries := parser.markerBoundaries.observeContent text
      textOpen := true
      textValue := (if parser.textOpen then parser.textValue else []) ++ text }

def contentActions (parser : QwenIncrementalParser δ) (text : PyStr) : List ParserAction :=
  if text = [] then []
  else if parser.mode = .reasoning then
    (if parser.reasoningOpen then [] else [.emitted (.reasoningStarted config.requestId)]) ++
      [.emitted (.reasoningDelta config.requestId text)]
  else
    (if parser.textOpen then [] else [.emitted (.textStarted config.requestId)]) ++
      [.emitted (.textDelta config.requestId text)]

def closed (parser : QwenIncrementalParser δ) : QwenIncrementalParser δ :=
  if parser.mode = .reasoning ∧ parser.reasoningOpen then
    { parser with reasoningOpen := false, reasoningValue := [] }
  else if parser.mode = .text ∧ parser.textOpen then
    { parser with textOpen := false, textValue := [] }
  else parser

def closeActions (parser : QwenIncrementalParser δ) : List ParserAction :=
  if parser.mode = .reasoning ∧ parser.reasoningOpen then
    [.emitted (.reasoningCompleted config.requestId parser.reasoningValue)]
  else if parser.mode = .text ∧ parser.textOpen then
    [.emitted (.textCompleted config.requestId parser.textValue)]
  else []

def dropBuffer (parser : QwenIncrementalParser δ) (count : Nat) : QwenIncrementalParser δ :=
  { parser with
    buffer := parser.buffer.drop count
    literalToolBufferOrigin := parser.literalToolBufferOrigin + count }

end QwenIncrementalParser

theorem emitContent_run (text : PyStr) (parser : QwenIncrementalParser δ) :
    emitContent config text parser =
      .ok ⟨(), parser.withContent text, parser.contentActions config text⟩ := by
  unfold emitContent QwenIncrementalParser.withContent QwenIncrementalParser.contentActions
  by_cases empty : text = []
  · simp only [empty, if_true]
    rfl
  · by_cases reasoning : parser.mode = .reasoning
    · cases isOpen : parser.reasoningOpen <;>
        simp [empty, reasoning, isOpen, bind_run, andThen, emit]
    · cases isOpen : parser.textOpen <;>
        simp [empty, reasoning, isOpen, bind_run, andThen, emit]

theorem closeCurrentChannel_run (parser : QwenIncrementalParser δ) :
    closeCurrentChannel config parser =
      .ok ⟨(), parser.closed, parser.closeActions config⟩ := by
  unfold closeCurrentChannel QwenIncrementalParser.closed QwenIncrementalParser.closeActions
  by_cases reasoning : parser.mode = .reasoning ∧ parser.reasoningOpen
  · simp [reasoning, bind_run, andThen, emit]
  · by_cases text : parser.mode = .text ∧ parser.textOpen
    · simp [text, bind_run, andThen, emit]
    · simp only [bind_run, andThen, read_run, id, if_neg reasoning, if_neg text, pure_run,
        List.append_nil]

theorem switchChannel_run (marker : PyStr) (mode : QwenMode)
    (parser : QwenIncrementalParser δ) :
    switchChannel config marker mode parser =
      .ok ⟨(), { parser.closed with mode := mode },
        parser.closeActions config ++ [.switched marker]⟩ := by
  unfold switchChannel
  rw [bind_run_ok (closeCurrentChannel_run config parser)]
  rfl

theorem consumeBufferPrefix_run {count : Nat} {parser : QwenIncrementalParser δ}
    (bound : count ≤ parser.buffer.length) :
    consumeBufferPrefix count parser = .ok ⟨(), parser.dropBuffer count, []⟩ := by
  unfold consumeBufferPrefix
  simp [bind_run, andThen, Nat.not_lt.mpr bound, QwenIncrementalParser.dropBuffer]

/-! ## Tool regions -/

def QwenIncrementalParser.inTool (parser : QwenIncrementalParser δ) (fed : δ) :
    QwenIncrementalParser δ :=
  { parser.closed with
    toolReturnMode := parser.mode
    mode := .tool
    literalToolOpenOffsets := []
    literalToolBufferOrigin := 0
    sharedToolDecoder := none
    activeToolDecoder := some fed
    sharedToolStreamChars := toolOpen.length
    sharedToolNativeMarkers := [] }

/-- Closing touches the channels only. -/
theorem closed_frame (parser : QwenIncrementalParser δ) :
    parser.closed =
      { parser with
        textOpen := parser.closed.textOpen
        textValue := parser.closed.textValue
        reasoningOpen := parser.closed.reasoningOpen
        reasoningValue := parser.closed.reasoningValue } := by
  unfold QwenIncrementalParser.closed
  split
  · rfl
  · split <;> rfl

@[simp] theorem closed_mode (parser : QwenIncrementalParser δ) :
    parser.closed.mode = parser.mode := by
  rw [closed_frame]

@[simp] theorem closed_buffer (parser : QwenIncrementalParser δ) :
    parser.closed.buffer = parser.buffer := by
  rw [closed_frame]

@[simp] theorem closed_sharedToolDecoder (parser : QwenIncrementalParser δ) :
    parser.closed.sharedToolDecoder = parser.sharedToolDecoder := by
  rw [closed_frame]

@[simp] theorem closed_activeToolDecoder (parser : QwenIncrementalParser δ) :
    parser.closed.activeToolDecoder = parser.activeToolDecoder := by
  rw [closed_frame]

@[simp] theorem closed_callIndex (parser : QwenIncrementalParser δ) :
    parser.closed.callIndex = parser.callIndex := by
  rw [closed_frame]

@[simp] theorem closed_finished (parser : QwenIncrementalParser δ) :
    parser.closed.finished = parser.finished := by
  rw [closed_frame]

@[simp] theorem closed_outsideToolLiteralPending (parser : QwenIncrementalParser δ) :
    parser.closed.outsideToolLiteralPending = parser.outsideToolLiteralPending := by
  rw [closed_frame]

theorem feedActiveToolDecoder_ok {text : PyStr} {parser : QwenIncrementalParser δ}
    {ending : Ending (QwenIncrementalParser δ) ParserAction Unit}
    (ended : feedActiveToolDecoder config text parser = .ok ending) :
    ∃ decoder active fed, config.sharedToolDecoderTemplate = some decoder ∧
      parser.activeToolDecoder = some active ∧ decoder.feed active text = .ok fed ∧
      ending = ⟨(), { parser with activeToolDecoder := some fed }, []⟩ := by
  unfold feedActiveToolDecoder at ended
  rw [read_bind] at ended
  cases template : config.sharedToolDecoderTemplate with
  | none => simp [template] at ended
  | some decoder =>
      cases isActive : parser.activeToolDecoder with
      | none => simp [template, isActive] at ended
      | some active =>
          simp only [template, id, isActive] at ended
          cases fed : decoder.feed active text with
          | error failure => simp [fed] at ended
          | ok next =>
              simp only [fed, change_run, Except.ok.injEq] at ended
              exact ⟨decoder, active, next, rfl, rfl, fed, ended.symm⟩

/-- Everything `_enter_tool` does where it does not raise. -/
theorem enterTool_ok {verified : Bool} {parser : QwenIncrementalParser δ}
    {ending : Ending (QwenIncrementalParser δ) ParserAction Unit}
    (ended : enterTool config verified parser = .ok ending) :
    ∃ decoder fed, config.sharedToolDecoderTemplate = some decoder ∧
      decoder.feed (parser.sharedToolDecoder.getD (decoder.fresh parser.callIndex)) toolOpen =
        .ok fed ∧
      ending = ⟨(), parser.inTool fed, parser.closeActions config ++ [.enteredTool]⟩ := by
  unfold enterTool at ended
  rcases bind_eq_ok ended with ⟨middle, last, closes, goes, rfl⟩
  rw [closeCurrentChannel_run] at closes
  cases closes
  rcases bind_eq_ok goes with ⟨middle, last, writes, rest, rfl⟩
  cases writes
  rw [change_bind] at rest
  cases template : config.sharedToolDecoderTemplate with
  | none => simp [template] at rest
  | some decoder =>
      simp only [template] at rest
      split at rest
      · cases rest
      · rw [change_bind] at rest
        rcases feedActiveToolDecoder_ok config rest with
          ⟨decoder', active, fed, template', isActive, feeds, rfl⟩
        rw [template] at template'
        cases template'
        simp only [closed_sharedToolDecoder, closed_callIndex, Option.some.injEq] at isActive
        refine ⟨decoder, fed, rfl, isActive ▸ feeds, ?_⟩
        simp only [QwenIncrementalParser.inTool, closed_mode, Ending.after, List.append_nil]

def QwenIncrementalParser.flushed (parser : QwenIncrementalParser δ) (fed : δ) :
    QwenIncrementalParser δ :=
  { parser with
    buffer := []
    activeToolDecoder := some fed
    sharedToolStreamChars := parser.sharedToolStreamChars + parser.buffer.length }

theorem processTool_ok {parser : QwenIncrementalParser δ}
    {ending : Ending (QwenIncrementalParser δ) ParserAction Unit}
    (ended : processTool config parser = .ok ending) :
    ∃ decoder active fed, config.sharedToolDecoderTemplate = some decoder ∧
      parser.activeToolDecoder = some active ∧ decoder.feed active parser.buffer = .ok fed ∧
      ending = ⟨(), parser.flushed fed, []⟩ := by
  unfold processTool at ended
  rw [read_bind, change_bind] at ended
  rcases bind_eq_ok ended with ⟨middle, last, feeds, rest, rfl⟩
  rcases feedActiveToolDecoder_ok config feeds with
    ⟨decoder, active, fed, template, isActive, feed, rfl⟩
  cases rest
  exact ⟨decoder, active, fed, template, isActive, feed, rfl⟩

theorem processTool_run {decoder : ToolRegionDecoder δ} {parser : QwenIncrementalParser δ}
    {active : δ} (template : config.sharedToolDecoderTemplate = some decoder)
    (isActive : parser.activeToolDecoder = some active) :
    processTool config parser =
      (decoder.feed active parser.buffer).map fun fed => ⟨(), parser.flushed fed, []⟩ := by
  unfold processTool feedActiveToolDecoder
  rw [read_bind, change_bind]
  cases feeds : decoder.feed active parser.buffer with
  | error failure => simp [bind_run, andThen, template, isActive, feeds, Except.map]
  | ok fed =>
      simp [bind_run, andThen, template, isActive, feeds, Except.map,
        QwenIncrementalParser.flushed]

theorem processTool_inactive {parser : QwenIncrementalParser δ}
    (inactive : config.sharedToolDecoderTemplate = none ∨ parser.activeToolDecoder = none) :
    processTool config parser =
      .error (.runtimeError
        "Qwen Tool mode requires an active shared Tool-region decoder") := by
  unfold processTool feedActiveToolDecoder
  rw [read_bind, change_bind]
  rcases inactive with noTemplate | idle
  · simp [bind_run, andThen, noTemplate]
  · cases template : config.sharedToolDecoderTemplate <;>
      simp [bind_run, andThen, idle]

end ExQServe.Model.Qwen
