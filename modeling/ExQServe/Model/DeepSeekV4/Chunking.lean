import ExQServe.Model.DeepSeekV4.Finding
import ExQServe.Model.DeepSeekV4.Parser

/-! # DeepSeek-V4 output in chunks

The chunks do not show as long as no tool block of the whole text takes the payload of an invoke
from behind its close. -/

namespace ExQServe.Model.DeepSeekV4.DeepSeekV4IncrementalParser

open ExQServe.Search ExQServe.Emission

variable (config : DeepSeekV4Config) {parser : DeepSeekV4IncrementalParser}

/-! ## Turns in content -/

def delivered (text rest : PyStr) (parser : DeepSeekV4IncrementalParser) :
    DeepSeekV4IncrementalParser :=
  { parser with
    channels := (parser.channels.emitContent config.request.requestId parser.mode text).1
    buffer := rest }

def deltas (text : PyStr) (parser : DeepSeekV4IncrementalParser) : List GenerationEvent :=
  (parser.channels.emitContent config.request.requestId parser.mode text).2

theorem delivered_append (first second rest between : PyStr) :
    delivered config (first ++ second) rest parser =
      delivered config second rest (delivered config first between parser) := by
  rw [delivered, delivered, delivered, ContentChannels.emitContent_append_fst]

theorem deltas_append (first second between : PyStr) :
    deltaJoining.merge (deltas config (first ++ second) parser) =
      deltaJoining.merge (deltas config first parser ++
        deltas config second (delivered config first between parser)) := by
  rw [deltas, deltas, deltas, delivered]
  exact ContentChannels.emitContent_append_snd first second

theorem turn_empty (empty : parser.buffer = []) : turn config parser = .ok ⟨false, parser, []⟩ :=
  if_pos empty

theorem turn_plain (nonempty : parser.buffer ≠ []) (outside : parser.inTool = false) :
    turn config parser = processPlain config parser := by
  rw [turn, if_neg nonempty, outside, if_neg Bool.false_ne_true]

theorem turn_text {position : Nat} {marker : PyStr} (nonempty : parser.buffer ≠ [])
    (outside : parser.inTool = false)
    (found : firstMatch parser.buffer (markers config) = some (position, marker))
    (positive : 0 < position) :
    turn config parser = .ok ⟨true,
      delivered config (parser.buffer.take position) (parser.buffer.drop position) parser,
      deltas config (parser.buffer.take position) parser⟩ := by
  rw [turn_plain config nonempty outside, processPlain, found]
  dsimp only
  rw [if_pos positive]
  rfl

theorem turn_marker {marker : PyStr} (nonempty : parser.buffer ≠ [])
    (outside : parser.inTool = false)
    (found : firstMatch parser.buffer (markers config) = some (0, marker)) :
    turn config parser = enter config marker parser := by
  rw [turn_plain config nonempty outside, processPlain, found]
  rfl

/-- Without a marker all but its possible start is delivered, also where nothing is left. -/
theorem turn_held (outside : parser.inTool = false)
    (missing : firstMatch parser.buffer (markers config) = none) :
    turn config parser = .ok ⟨false,
      delivered config
        (parser.buffer.take (parser.buffer.length - longestPartial (markers config) parser.buffer))
        (parser.buffer.drop (parser.buffer.length - longestPartial (markers config) parser.buffer))
        parser,
      deltas config
        (parser.buffer.take (parser.buffer.length - longestPartial (markers config) parser.buffer))
        parser⟩ := by
  by_cases empty : parser.buffer = []
  · have same : delivered config [] [] parser = parser := by
      rw [delivered, ContentChannels.emitContent_nil, ← empty]
    rw [turn_empty config empty, empty, List.take_nil, List.drop_nil, same, deltas,
      ContentChannels.emitContent_nil]
  · rw [turn_plain config empty outside, processPlain, missing]
    rfl

theorem markers_endFree : EndFree (markers config) := by
  rw [markers]
  cases config.context.toolsEnabled with
  | true => decide
  | false => decide

/-- The turn on a text that begins with a clear piece, beside the turn behind that piece. -/
theorem turn_clear {before after : PyStr} (outside : parser.inTool = false)
    (buffer : parser.buffer = before ++ after) (clear : Clear (markers config) before after) :
    (before = [] ∨ turn config parser =
      .ok ⟨true, delivered config before after parser, deltas config before parser⟩) ∨
    ∃ value next log log', turn config parser = .ok ⟨value, next, log⟩ ∧
      turn config (delivered config before after parser) = .ok ⟨value, next, log'⟩ ∧
        deltaJoining.merge log = deltaJoining.merge (deltas config before parser ++ log') := by
  by_cases empty : before = []
  · exact .inl (.inl empty)
  · have positive := List.length_pos_iff.mpr empty
    have endFree := markers_endFree config
    have nonempty : parser.buffer ≠ [] := by
      rw [buffer]
      exact fun nil => empty (List.append_eq_nil_iff.mp nil).1
    have outsideThen : (delivered config before after parser).inTool = false := outside
    have whole := clear.firstMatch_eq endFree
    rw [← buffer] at whole
    cases found : firstMatch after (markers config) with
    | some best =>
        rcases best with ⟨position, marker⟩
        rw [found, Option.map_some] at whole
        have turned := turn_text config nonempty outside whole (by omega)
        dsimp only at turned
        by_cases here : position = 0
        · rw [here, Nat.add_zero, buffer, List.take_left, List.drop_left] at turned
          exact .inl (.inr turned)
        · have rest : (delivered config before after parser).buffer ≠ [] := by
            intro nil
            have within := (firstAt_of_firstMatch found).occurs.end_le
              (endFree.nonempty marker (firstAt_of_firstMatch found).member)
            have none : after = [] := nil
            rw [none, List.length_nil] at within
            omega
          have turned' := turn_text config rest outsideThen found (Nat.pos_of_ne_zero here)
          rw [buffer, List.take_length_add_append, List.drop_length_add_append,
            delivered_append config before _ _ after] at turned
          exact .inr ⟨_, _, _, _, turned, turned', deltas_append config before _ after⟩
    | none =>
        rw [found, Option.map_none] at whole
        have partials := clear.longestPartial_eq endFree.nonempty
        rw [← buffer] at partials
        have bound : longestPartial (markers config) after ≤ after.length :=
          longestPartial_le fun marker _ => partialLength_le after marker
        have length : parser.buffer.length - longestPartial (markers config) parser.buffer =
            before.length + (after.length - longestPartial (markers config) after) := by
          rw [partials, buffer, List.length_append]
          omega
        have turned := turn_held config outside whole
        rw [length, buffer, List.take_length_add_append, List.drop_length_add_append] at turned
        have turned' := turn_held config outsideThen found
        rw [delivered_append config before _ _ after] at turned
        exact .inr ⟨_, _, _, _, turned, turned', deltas_append config before _ after⟩

/-! ## More text -/

def entered (marker : PyStr) (parser : DeepSeekV4IncrementalParser) : DeepSeekV4IncrementalParser :=
  { parser with
    buffer := parser.buffer.drop ((if newlines <+: marker then newlines.length else 0) +
      if marker ∈ malformedToolOpenMarkers then malformedToolBlockOpen.length else 0)
    channels := (parser.channels.closeChannel config.request.requestId parser.mode).1
    mode := .text
    directJsonScanState := .initial
    inTool := true
    bareTool := decide (marker ∈ malformedToolOpenMarkers) ||
      decide (marker ∈ bareInvokeMarkers) }

theorem enterTool_eq {marker : PyStr} (here : marker <+: parser.buffer) :
    enterTool config marker parser = .ok ⟨true, entered config marker parser,
      (parser.channels.closeChannel config.request.requestId parser.mode).2⟩ := by
  have opener : marker ∈ malformedToolOpenMarkers → malformedToolBlockOpen <+:
      parser.buffer.drop (if newlines <+: marker then newlines.length else 0) := by
    intro malformed
    rcases here with ⟨rest, same⟩
    simp only [malformedToolOpenMarkers, List.mem_cons, List.not_mem_nil, or_false] at malformed
    rcases malformed with isWrapper | isWrapper
    · rw [← same, isWrapper, if_pos (List.prefix_append _ _), List.append_assoc, List.drop_left]
      exact List.prefix_append _ _
    · rw [← same, isWrapper, if_neg (by decide), List.drop_zero]
      exact List.prefix_append _ _
  have leading : (if newlines <+: marker then newlines else []).length =
      if newlines <+: marker then newlines.length else 0 := by
    split
    · rfl
    · rfl
  rw [enterTool]
  dsimp only
  rw [leading]
  by_cases malformed : marker ∈ malformedToolOpenMarkers
  · rw [if_neg fun broken => broken.2 (opener malformed)]
    simp only [closeChannel, entered, malformed, decide_true, if_true, List.drop_drop]
    rfl
  · rw [if_neg fun broken => malformed (of_decide_eq_true broken.1)]
    simp only [closeChannel, entered, malformed, decide_false, if_false, Nat.add_zero]
    rfl

/-- A turn that found its marker is the same turn when more text follows. -/
def SameTurn (parser : DeepSeekV4IncrementalParser) (more : PyStr) : Prop :=
  turn config (push parser more) = (turn config parser).map (Ending.relocate (push · more))

theorem emitToolBlock_push (block more : PyStr) :
    emitToolBlock config block (push parser more) =
      (emitToolBlock config block parser).map (Ending.relocate (push · more)) := by
  rw [emitToolBlock, emitToolBlock, push]
  dsimp only
  cases declaredCalls config block with
  | none => rfl
  | some calls =>
      dsimp only
      cases publishCalls config.request parser.callIndex calls with
      | error failure => rfl
      | ok events => rfl

theorem skipped_le {marker : PyStr} (member : marker ∈ markers config) :
    (if newlines <+: marker then newlines.length else 0) +
      (if marker ∈ malformedToolOpenMarkers then malformedToolBlockOpen.length else 0) ≤
        marker.length := by
  have all : ∀ marker ∈ [thinkOpen, thinkClose, eos] ++ toolStartMarkers,
      (if newlines <+: marker then newlines.length else 0) +
        (if marker ∈ malformedToolOpenMarkers then malformedToolBlockOpen.length else 0) ≤
          marker.length := by decide
  apply all
  rw [markers] at member
  cases enabled : config.context.toolsEnabled with
  | true =>
      rw [enabled, if_pos rfl] at member
      exact member
  | false =>
      rw [enabled, if_neg Bool.false_ne_true, List.append_nil] at member
      exact List.mem_append_left _ member

theorem enter_push {marker : PyStr} (more : PyStr) (member : marker ∈ markers config)
    (here : marker <+: parser.buffer) :
    enter config marker (push parser more) =
      (enter config marker parser).map (Ending.relocate (push · more)) := by
  have dropped : ∀ {size : Nat}, size ≤ marker.length →
      (parser.buffer ++ more).drop size = parser.buffer.drop size ++ more := fun inside =>
    List.drop_append_of_le_length (Nat.le_trans inside here.length_le)
  rw [enter, enter]
  by_cases isOpen : marker = thinkOpen
  · rw [if_pos isOpen, if_pos isOpen, push]
    dsimp only
    rw [dropped (isOpen ▸ Nat.le_refl _)]
    split
    · rfl
    · rfl
  · rw [if_neg isOpen, if_neg isOpen]
    by_cases isClose : marker = thinkClose
    · rw [if_pos isClose, if_pos isClose, push]
      dsimp only
      rw [dropped (isClose ▸ Nat.le_refl _)]
      split
      · rfl
      · rfl
    · rw [if_neg isClose, if_neg isClose]
      by_cases isEos : marker = eos
      · rw [if_pos isEos, if_pos isEos, push]
        dsimp only
        rw [dropped (isEos ▸ Nat.le_refl _)]
        rfl
      · have hereThen : marker <+: (push parser more).buffer :=
          here.trans (List.prefix_append _ _)
        have size : (if newlines <+: marker then newlines.length else 0) +
            (if marker ∈ malformedToolOpenMarkers then malformedToolBlockOpen.length else 0) ≤
              marker.length := skipped_le config member
        rw [if_neg isEos, if_neg isEos, enterTool_eq config hereThen, enterTool_eq config here,
          entered, push]
        dsimp only
        rw [dropped size]
        rfl

theorem sameTurn_plain {position : Nat} {marker : PyStr} (nonempty : parser.buffer ≠ [])
    (outside : parser.inTool = false)
    (found : firstMatch parser.buffer (markers config) = some (position, marker)) (more : PyStr) :
    SameTurn config parser more := by
  have endFree := markers_endFree config
  have firstAt := firstAt_of_firstMatch found
  have bound := firstAt.occurs.end_le (endFree.nonempty marker firstAt.member)
  have whole := firstMatch_append_of_some endFree found more
  have outsideThen : (push parser more).inTool = false := outside
  have nonemptyThen : (push parser more).buffer ≠ [] := fun nil =>
    nonempty (List.append_eq_nil_iff.mp nil).1
  rw [SameTurn]
  by_cases positive : 0 < position
  · have front : (parser.buffer ++ more).take position = parser.buffer.take position :=
      List.take_append_of_le_length (by omega)
    have back : (parser.buffer ++ more).drop position = parser.buffer.drop position ++ more :=
      List.drop_append_of_le_length (by omega)
    have turned' : turn config (push parser more) = .ok ⟨true,
        delivered config ((push parser more).buffer.take position)
          ((push parser more).buffer.drop position) (push parser more),
        deltas config ((push parser more).buffer.take position) (push parser more)⟩ :=
      turn_text config nonemptyThen outsideThen whole positive
    rw [turned', turn_text config nonempty outside found positive, push]
    dsimp only
    rw [front, back]
    rfl
  · have here : position = 0 := Nat.eq_zero_of_not_pos positive
    rw [here] at found whole
    rw [turn_marker config nonempty outside found,
      turn_marker config nonemptyThen outsideThen whole]
    apply enter_push config more firstAt.member
    have start := firstAt.occurs
    rw [here, Occurs, List.drop_zero] at start
    exact start

/-! ## Tool blocks -/

theorem turn_tool (nonempty : parser.buffer ≠ []) (inside : parser.inTool = true) :
    turn config parser = processTool config parser := by
  rw [turn, if_neg nonempty, inside, if_pos rfl]

theorem processTool_none (anew : config.resumes = false)
    (missing : (findDsmlClose parser.buffer toolBlockClose 0 none).1 = none) :
    processTool config parser =
      .ok ⟨false, { parser with directJsonScanState := .initial }, []⟩ := by
  have stateless := findDsmlCloseFrom_none parser.buffer toolBlockClose (parser.buffer.length + 1) 0
  rw [← findDsmlClose] at stateless
  rw [processTool, anew, if_neg Bool.false_ne_true]
  dsimp only
  rw [missing, stateless]
  rfl

def shut (closeAt : Nat) (parser : DeepSeekV4IncrementalParser) : DeepSeekV4IncrementalParser :=
  { parser with
    buffer := parser.buffer.drop (closeAt + toolBlockClose.length)
    inTool := false
    bareTool := false
    directJsonScanState := .initial }

def blockOf (closeAt : Nat) (parser : DeepSeekV4IncrementalParser) : PyStr :=
  if parser.bareTool then bareBlock (parser.buffer.take closeAt)
  else parser.buffer.take (closeAt + toolBlockClose.length)

theorem processTool_some {closeAt : Nat} (anew : config.resumes = false)
    (found : (findDsmlClose parser.buffer toolBlockClose 0 none).1 = some closeAt) :
    processTool config parser =
      (emitToolBlock config (blockOf closeAt parser) (shut closeAt parser)).map fun ending =>
        ⟨true, ending.state, ending.log⟩ := by
  rw [processTool, anew, if_neg Bool.false_ne_true]
  dsimp only
  rw [found]
  rfl

theorem sameTurn_tool {closeAt : Nat} (anew : config.resumes = false)
    (nonempty : parser.buffer ≠ []) (inside : parser.inTool = true)
    (found : (findDsmlClose parser.buffer toolBlockClose 0 none).1 = some closeAt) (more : PyStr)
    (isSteady : steady (push parser more).buffer toolBlockClose = true) :
    SameTurn config parser more := by
  have bound := (findDsmlCloseFrom_occurs found).end_le (by decide)
  have whole : (findDsmlClose (push parser more).buffer toolBlockClose 0 none).1 = some closeAt :=
    findDsmlClose_append isSteady found
  have nonemptyThen : (push parser more).buffer ≠ [] := fun nil =>
    nonempty (List.append_eq_nil_iff.mp nil).1
  have insideThen : (push parser more).inTool = true := inside
  have block : blockOf closeAt (push parser more) = blockOf closeAt parser := by
    rw [blockOf, blockOf, push]
    dsimp only
    rw [List.take_append_of_le_length (by omega), List.take_append_of_le_length bound]
  have rest : shut closeAt (push parser more) = push (shut closeAt parser) more := by
    rw [shut, push]
    dsimp only
    rw [List.drop_append_of_le_length bound]
    rfl
  rw [SameTurn, turn_tool config nonempty inside, turn_tool config nonemptyThen insideThen,
    processTool_some config anew found, processTool_some config anew whole, block, rest,
    emitToolBlock_push]
  cases emitToolBlock config (blockOf closeAt parser) (shut closeAt parser) with
  | error failure => rfl
  | ok ending => rfl

/-! ## Steady runs -/

/-- The block that the parser is in takes no payload from behind its close. -/
def blockSteady (parser : DeepSeekV4IncrementalParser) : Bool :=
  !parser.inTool || steady parser.buffer toolBlockClose

structure Resting (parser : DeepSeekV4IncrementalParser) : Prop where
  unfinished : parser.finished = false
  forgotten : parser.directJsonScanState = .initial

/-- What is held back stays there. -/
theorem held_rests (outside : parser.inTool = false)
    (missing : firstMatch parser.buffer (markers config) = none) :
    turn config (delivered config
        (parser.buffer.take (parser.buffer.length - longestPartial (markers config) parser.buffer))
        (parser.buffer.drop (parser.buffer.length - longestPartial (markers config) parser.buffer))
        parser) =
      .ok ⟨false, delivered config
        (parser.buffer.take (parser.buffer.length - longestPartial (markers config) parser.buffer))
        (parser.buffer.drop (parser.buffer.length - longestPartial (markers config) parser.buffer))
        parser, []⟩ := by
  have endFree := markers_endFree config
  have bound : longestPartial (markers config) parser.buffer ≤ parser.buffer.length :=
    longestPartial_le fun marker _ => partialLength_le parser.buffer marker
  have clear := clear_of_no_match endFree.nonempty missing
  have whole := clear.firstMatch_eq endFree
  have partials := clear.longestPartial_eq endFree.nonempty
  rw [List.take_append_drop] at whole partials
  generalize held : parser.buffer.drop
    (parser.buffer.length - longestPartial (markers config) parser.buffer) = rest at *
  have length := congrArg List.length held
  rw [List.length_drop] at length
  rw [missing] at whole
  have missingThen : firstMatch rest (markers config) = none :=
    Option.map_eq_none_iff.mp whole.symm
  have outsideThen : (delivered config (parser.buffer.take
      (parser.buffer.length - longestPartial (markers config) parser.buffer)) rest
        parser).inTool = false := outside
  have nothing : rest.length - longestPartial (markers config) rest = 0 := by omega
  have turned := turn_held config outsideThen missingThen
  have buffer : (delivered config (parser.buffer.take
      (parser.buffer.length - longestPartial (markers config) parser.buffer)) rest
        parser).buffer = rest := rfl
  rw [buffer, nothing, List.take_zero, List.drop_zero, ← delivered_append config _ [] rest,
    List.append_nil] at turned
  exact turned

theorem turn_found {position : Nat} {marker : PyStr}
    {ending : Ending DeepSeekV4IncrementalParser GenerationEvent Bool}
    (nonempty : parser.buffer ≠ []) (outside : parser.inTool = false) (resting : Resting parser)
    (found : firstMatch parser.buffer (markers config) = some (position, marker))
    (turned : turn config parser = .ok ending) : ending.value = true ∧ Resting ending.state := by
  by_cases positive : 0 < position
  · rw [turn_text config nonempty outside found positive] at turned
    cases turned
    exact ⟨rfl, resting.unfinished, resting.forgotten⟩
  · rw [Nat.eq_zero_of_not_pos positive] at found
    have here := (firstAt_of_firstMatch found).occurs
    rw [Occurs, List.drop_zero] at here
    rw [turn_marker config nonempty outside found, enter, enterTool_eq config here] at turned
    split at turned
    · dsimp only at turned
      split at turned
      · cases turned
        exact ⟨rfl, resting.unfinished, resting.forgotten⟩
      · cases turned
        exact ⟨rfl, resting.unfinished, resting.forgotten⟩
    · split at turned
      · dsimp only at turned
        split at turned
        · cases turned
          exact ⟨rfl, resting.unfinished, resting.forgotten⟩
        · cases turned
          exact ⟨rfl, resting.unfinished, resting.forgotten⟩
      · split at turned
        · cases turned
          exact ⟨rfl, resting.unfinished, resting.forgotten⟩
        · cases turned
          exact ⟨rfl, resting.unfinished, rfl⟩

/-- What a turn does: it rests, it acts on what it found, or it delivers a clear piece. -/
theorem turn_cases (anew : config.resumes = false) (resting : Resting parser) :
    turn config parser = .ok ⟨false, parser, []⟩ ∨
      ((∀ more, blockSteady (push parser more) = true → SameTurn config parser more) ∧
        ∀ ending, turn config parser = .ok ending →
          ending.value = true ∧ Resting ending.state) ∨
      ∃ before after, parser.inTool = false ∧ parser.buffer = before ++ after ∧
        Clear (markers config) before after ∧
          turn config parser =
            .ok ⟨false, delivered config before after parser, deltas config before parser⟩ ∧
          turn config (delivered config before after parser) =
            .ok ⟨false, delivered config before after parser, []⟩ := by
  by_cases empty : parser.buffer = []
  · exact .inl (turn_empty config empty)
  · cases inside : parser.inTool with
    | true =>
        cases found : (findDsmlClose parser.buffer toolBlockClose 0 none).1 with
        | none =>
            left
            rw [turn_tool config empty inside, processTool_none config anew found,
              ← resting.forgotten]
        | some closeAt =>
            right; left
            constructor
            · intro more isSteady
              apply sameTurn_tool config anew empty inside found more
              rw [blockSteady, push, inside] at isSteady
              exact isSteady
            · intro ending turned
              rw [turn_tool config empty inside, processTool_some config anew found] at turned
              rcases map_eq_ok turned with ⟨last, emitted, same⟩
              have frame := emitToolBlock_frame config emitted
              rw [← same]
              exact ⟨rfl, frame.2.2.2.1.trans resting.unfinished, frame.2.2.2.2⟩
    | false =>
        cases found : firstMatch parser.buffer (markers config) with
        | some best =>
            rcases best with ⟨position, marker⟩
            right; left
            constructor
            · exact fun more _ => sameTurn_plain config empty inside found more
            · exact fun ending turned => turn_found config empty inside resting found turned
        | none =>
            right; right
            exact ⟨_, _, rfl, (List.take_append_drop _ _).symm,
              clear_of_no_match (markers_endFree config).nonempty found,
              turn_held config inside found, held_rests config inside found⟩

/-- No tool block that the parser goes through from here takes its payload from behind its
close. -/
def Steady (parser : DeepSeekV4IncrementalParser) : Prop :=
  (machine config).Always (fun reached => blockSteady reached = true) parser

theorem failed_push {failure : ParserFailure} (anew : config.resumes = false)
    (resting : Resting parser) (more : PyStr) (isSteady : Steady config (push parser more))
    (failed : turn config parser = .error failure) :
    turn config (push parser more) = .error failure := by
  rcases turn_cases config anew resting with rests | ⟨same, -⟩ | ⟨_, _, -, -, -, moved, -⟩
  · rw [rests] at failed
    cases failed
  · rw [same more isSteady.now, failed]
    rfl
  · rw [moved] at failed
    cases failed

theorem turned_alike {ending : Ending DeepSeekV4IncrementalParser GenerationEvent Bool}
    (anew : config.resumes = false) (resting : Resting parser) (more : PyStr)
    (isSteady : Steady config (push parser more)) (turned : turn config parser = .ok ending) :
    Alike deltaJoining ((machine config).drain (push parser more))
        (((machine config).drain (push ending.state more)).map (Ending.after ending.log)) ∧
      Steady config (push ending.state more) := by
  rcases turn_cases config anew resting with
    rests | ⟨same, progresses⟩ | ⟨before, after, outside, buffer, clear, moved, -⟩
  · rw [rests] at turned
    cases turned
    rw [Ending.map_after_nil]
    exact ⟨Alike.refl _, isSteady⟩
  · have turned' : (machine config).turn (push parser more) =
        .ok (Ending.relocate (push · more) ending) := by
      have equal := same more isSteady.now
      rw [SameTurn, turned] at equal
      exact equal
    have progressed := (progresses ending turned).1
    rw [Draining.drain_of_progress turned' progressed]
    exact ⟨Alike.refl _, isSteady.next turned' progressed⟩
  · have whole : (push parser more).buffer = before ++ (after ++ more) := by
      rw [push, buffer, List.append_assoc]
    have outsideThen : (push parser more).inTool = false := outside
    rw [moved] at turned
    cases turned
    have rest : push (delivered config before after parser) more =
        delivered config before (after ++ more) (push parser more) := rfl
    dsimp only
    rw [rest]
    rcases turn_clear config outsideThen whole (clear.more more) with
      (empty | turned') | ⟨value, next, log, log', turned', turnedThen, same⟩
    · rw [empty, List.nil_append] at whole
      have stays : delivered config before (after ++ more) (push parser more) =
        push parser more := by
        rw [delivered, empty, ContentChannels.emitContent_nil, ← whole]
      have silent : deltas config before parser = [] := by
        rw [deltas, empty, ContentChannels.emitContent_nil]
      rw [stays, silent, Ending.map_after_nil]
      exact ⟨Alike.refl _, isSteady⟩
    · rw [Draining.drain_of_progress turned' rfl]
      exact ⟨Alike.refl _, isSteady.next turned' rfl⟩
    · refine ⟨Draining.drain_alike turned' turnedThen same, ?_⟩
      have content : blockSteady (delivered config before (after ++ more) (push parser more)) =
          true := by
        rw [blockSteady, delivered, outsideThen]
        rfl
      apply @Draining.Always.of_turn _ _ _ _ (machine config)
        (fun reached => blockSteady reached = true) _ content
      intro ending turned progressed
      cases turnedThen.symm.trans turned
      have later := isSteady.next turned' progressed
      exact later

theorem cutFree (anew : config.resumes = false) :
    (machine config).CutFree deltaJoining Resting (Steady config) where
  push _ _ resting := ⟨resting.unfinished, resting.forgotten⟩
  turn _ ending resting turned := by
    rcases turn_cases config anew resting with rests | ⟨-, progresses⟩ | ⟨_, _, -, -, -, moved, -⟩
    · cases rests.symm.trans turned
      exact resting
    · exact (progresses ending turned).2
    · cases moved.symm.trans turned
      exact ⟨resting.unfinished, resting.forgotten⟩
  failed _ _ more resting isSteady failed := failed_push config anew resting more isSteady failed
  turned _ _ more resting isSteady turned := turned_alike config anew resting more isSteady turned
  rested _ ending resting turned stops := by
    rcases turn_cases config anew resting with
      rests | ⟨-, progresses⟩ | ⟨_, _, -, -, -, moved, restsThen⟩
    · cases rests.symm.trans turned
      exact rests
    · rw [(progresses ending turned).1] at stops
      cases stops
    · cases moved.symm.trans turned
      exact restsThen

end ExQServe.Model.DeepSeekV4.DeepSeekV4IncrementalParser
