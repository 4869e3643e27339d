import ExQServe.Model.Glm5.Parser

/-! # GLM-5 output in chunks

A turn of the parser does not depend on what comes later, but for the place where content is
cut into deltas. -/

namespace ExQServe.Model.Glm5.Glm5IncrementalParser

open ExQServe.Search ExQServe.Emission

variable (config : Glm5Config) {parser : Glm5IncrementalParser}

/-! ## Turns -/

def delivered (channel : Channel) (text rest : PyStr) (parser : Glm5IncrementalParser) :
    Glm5IncrementalParser :=
  { parser with
    channels := (parser.channels.emitContent config.request.requestId channel text).1
    buffer := rest }

def deltas (channel : Channel) (text : PyStr) (parser : Glm5IncrementalParser) :
    List GenerationEvent :=
  (parser.channels.emitContent config.request.requestId channel text).2

theorem delivered_append (channel : Channel) (first second rest between : PyStr) :
    delivered config channel (first ++ second) rest parser =
      delivered config channel second rest (delivered config channel first between parser) := by
  rw [delivered, delivered, delivered, ContentChannels.emitContent_append_fst]

theorem deltas_append (channel : Channel) (first second between : PyStr) :
    deltaJoining.merge (deltas config channel (first ++ second) parser) =
      deltaJoining.merge (deltas config channel first parser ++
        deltas config channel second (delivered config channel first between parser)) := by
  rw [deltas, deltas, deltas, delivered]
  exact ContentChannels.emitContent_append_snd first second

theorem turn_text {channel : Channel} {position : Nat} {marker : PyStr}
    (mode : parser.mode = .content channel)
    (found : firstMatch parser.buffer (markers config) = some (position, marker))
    (positive : 0 < position) :
    turn config parser = .ok ⟨true,
      delivered config channel (parser.buffer.take position) (parser.buffer.drop position) parser,
      deltas config channel (parser.buffer.take position) parser⟩ := by
  rw [turn, mode]
  dsimp only
  rw [processPlain, found]
  dsimp only
  rw [if_pos positive]
  rfl

theorem turn_marker {channel : Channel} {marker : PyStr} (mode : parser.mode = .content channel)
    (found : firstMatch parser.buffer (markers config) = some (0, marker)) :
    turn config parser = (enter config channel marker parser).map fun ending =>
      ⟨true, ending.state, ending.log⟩ := by
  rw [turn, mode]
  dsimp only
  rw [processPlain, found]
  rfl

theorem turn_held {channel : Channel} (mode : parser.mode = .content channel)
    (missing : firstMatch parser.buffer (markers config) = none)
    (positive : 0 < parser.buffer.length - longestPartial (markers config) parser.buffer) :
    turn config parser = .ok ⟨true,
      delivered config channel
        (parser.buffer.take (parser.buffer.length - longestPartial (markers config) parser.buffer))
        (parser.buffer.drop (parser.buffer.length - longestPartial (markers config) parser.buffer))
        parser,
      deltas config channel
        (parser.buffer.take (parser.buffer.length - longestPartial (markers config) parser.buffer))
        parser⟩ := by
  rw [turn, mode]
  dsimp only
  rw [processPlain, missing]
  dsimp only
  rw [if_pos positive]
  rfl

theorem turn_rests {channel : Channel} (mode : parser.mode = .content channel)
    (missing : firstMatch parser.buffer (markers config) = none)
    (rests : ¬0 < parser.buffer.length - longestPartial (markers config) parser.buffer) :
    turn config parser = .ok ⟨false, parser, []⟩ := by
  rw [turn, mode]
  dsimp only
  rw [processPlain, missing]
  dsimp only
  rw [if_neg rests]

/-! ## Text before which no marker starts -/

theorem map_drain_nil (parser : Glm5IncrementalParser) :
    ((machine config).drain parser).map (Ending.after []) = (machine config).drain parser :=
  Ending.map_after_nil _

/-- Delivering a clear piece first does not show. -/
theorem drain_clear {channel : Channel} {before after : PyStr}
    (mode : parser.mode = .content channel) (buffer : parser.buffer = before ++ after)
    (clear : Clear (markers config) before after) :
    Alike deltaJoining ((machine config).drain parser)
      (((machine config).drain (delivered config channel before after parser)).map
        (Ending.after (deltas config channel before parser))) := by
  by_cases empty : before = []
  · have same : delivered config channel before after parser = parser := by
      rw [empty, List.nil_append] at buffer
      rw [delivered, empty, ContentChannels.emitContent_nil, ← buffer]
    have silent : deltas config channel before parser = [] := by
      rw [deltas, empty, ContentChannels.emitContent_nil]
    rw [same, silent, map_drain_nil]
    exact Alike.refl _
  · have positive := List.length_pos_iff.mpr empty
    have endFree := markers_endFree config
    have modeThen : (delivered config channel before after parser).mode = .content channel := mode
    have whole := clear.firstMatch_eq endFree
    rw [← buffer] at whole
    cases found : firstMatch after (markers config) with
    | some best =>
        rcases best with ⟨position, marker⟩
        rw [found, Option.map_some] at whole
        have turned := turn_text config mode whole (by omega)
        dsimp only at turned
        by_cases here : position = 0
        · rw [here, Nat.add_zero, buffer, List.take_left, List.drop_left] at turned
          rw [Draining.drain_of_progress turned rfl]
          exact Alike.refl _
        · have turned' := turn_text config modeThen found
            (Nat.pos_of_ne_zero here)
          rw [buffer, List.take_length_add_append, List.drop_length_add_append,
            delivered_append config channel before _ _ after] at turned
          apply Draining.drain_alike turned turned'
          exact deltas_append config channel before _ after
    | none =>
        rw [found, Option.map_none] at whole
        have partials := clear.longestPartial_eq endFree.nonempty
        rw [← buffer] at partials
        have bound : longestPartial (markers config) after ≤ after.length :=
          longestPartial_le fun marker _ => partialLength_le after marker
        have length : parser.buffer.length - longestPartial (markers config) parser.buffer =
            before.length + (after.length - longestPartial (markers config) after) := by
          rw [partials, buffer, List.length_append]
          omega
        have turned := turn_held config mode whole (by omega)
        rw [length, buffer, List.take_length_add_append, List.drop_length_add_append] at turned
        by_cases rests : after.length - longestPartial (markers config) after = 0
        · rw [rests, List.take_zero, List.drop_zero, List.append_nil] at turned
          rw [Draining.drain_of_progress turned rfl]
          exact Alike.refl _
        · have turned' := turn_held config modeThen found (Nat.pos_of_ne_zero rests)
          rw [delivered_append config channel before _ _ after] at turned
          apply Draining.drain_alike turned turned'
          exact deltas_append config channel before _ after

/-- The parser inside a tool with text moved from the buffer to the body. -/
def absorbed (text rest : PyStr) (parser : Glm5IncrementalParser) : Glm5IncrementalParser :=
  { parser with toolBody := parser.toolBody ++ text, buffer := rest }

/-- In a tool a clear piece only goes to the body first. -/
theorem drain_clear_tool {before after : PyStr} (mode : parser.mode = .tool)
    (buffer : parser.buffer = before ++ after) (clear : Clear [toolClose] before after) :
    (machine config).drain parser = (machine config).drain (absorbed before after parser) := by
  by_cases empty : before = []
  · have same : absorbed before after parser = parser := by
      rw [empty, List.nil_append] at buffer
      rw [absorbed, empty, List.append_nil, ← buffer]
    rw [same]
  · have positive := List.length_pos_iff.mpr empty
    have modeThen : (absorbed before after parser).mode = .tool := mode
    have nonempty : ∀ marker ∈ [toolClose], marker ≠ [] := by decide
    have whole := @find_append_of_absent _ _ toolClose before after (by decide)
      fun position inside => (clear toolClose List.mem_cons_self position inside).1
    rw [← buffer] at whole
    cases found : find toolClose after with
    | some closeAt =>
        rw [found, Option.map_some] at whole
        apply repeatWhile_congr (turn_progresses config)
        have turned : turn config parser = processTool config parser := by
          rw [turn, mode]
        have turned' : turn config (absorbed before after parser) =
            processTool config (absorbed before after parser) := by
          rw [turn, modeThen]
        have split : (before ++ after).drop (before.length + closeAt + toolClose.length) =
            after.drop (closeAt + toolClose.length) := by
          rw [Nat.add_assoc, List.drop_length_add_append]
        have body : parser.toolBody ++ before ++ after.take closeAt =
            parser.toolBody ++ (before ++ after.take closeAt) := List.append_assoc _ _ _
        rw [turned, turned', processTool, whole]
        dsimp only
        rw [processTool, absorbed]
        dsimp only
        rw [found, buffer, List.take_length_add_append, split, ← body]
    | none =>
        rw [found, Option.map_none] at whole
        have partials := clear.longestPartial_eq nonempty
        rw [← buffer] at partials
        have bound : longestPartial [toolClose] after ≤ after.length :=
          longestPartial_le fun marker _ => partialLength_le after marker
        have length : parser.buffer.length - longestPartial [toolClose] parser.buffer =
            before.length + (after.length - longestPartial [toolClose] after) := by
          rw [partials, buffer, List.length_append]
          omega
        have turned : turn config parser = .ok ⟨true,
            absorbed (before ++ after.take (after.length - longestPartial [toolClose] after))
              (after.drop (after.length - longestPartial [toolClose] after)) parser, []⟩ := by
          rw [turn, mode]
          dsimp only
          rw [processTool, whole]
          dsimp only
          rw [if_pos (by omega), length, buffer, List.take_length_add_append,
            List.drop_length_add_append]
          rfl
        by_cases rests : after.length - longestPartial [toolClose] after = 0
        · rw [rests, List.take_zero, List.drop_zero, List.append_nil] at turned
          rw [Draining.drain_of_progress turned rfl]
          exact map_drain_nil config _
        · apply repeatWhile_congr (turn_progresses config)
          rw [turned, turn, modeThen]
          dsimp only
          rw [processTool, absorbed, absorbed]
          dsimp only
          rw [found]
          dsimp only
          rw [if_pos (Nat.pos_of_ne_zero rests), List.append_assoc]

/-! ## More text -/

theorem enter_push {channel : Channel} {marker : PyStr} (more : PyStr)
    (inside : marker.length ≤ parser.buffer.length) :
    enter config channel marker (push parser more) =
      (enter config channel marker parser).map (Ending.relocate (push · more)) := by
  have rest : (parser.buffer ++ more).drop marker.length =
      parser.buffer.drop marker.length ++ more := List.drop_append_of_le_length inside
  rw [enter, enter, push]
  dsimp only
  rw [rest]
  split
  · rfl
  · split
    · rfl
    · rfl

theorem finishTool_push (more : PyStr) :
    finishTool config (push parser more) =
      (finishTool config parser).map (Ending.relocate (push · more)) := by
  rw [finishTool, finishTool, push]
  dsimp only
  cases parseToolBody parser.toolBody config.context.parameterTypes with
  | none => rfl
  | some call =>
      dsimp only
      cases config.request.publishCall parser.callIndex call with
      | error failure => rfl
      | ok events => rfl

/-- A turn that found its marker is the same turn when more text follows. -/
def SameTurn (parser : Glm5IncrementalParser) (more : PyStr) : Prop :=
  turn config (push parser more) = (turn config parser).map (Ending.relocate (push · more))

theorem sameTurn_plain {channel : Channel} {position : Nat} {marker : PyStr}
    (mode : parser.mode = .content channel)
    (found : firstMatch parser.buffer (markers config) = some (position, marker)) (more : PyStr) :
    SameTurn config parser more := by
  have endFree := markers_endFree config
  have firstAt := firstAt_of_firstMatch found
  have bound := firstAt.occurs.end_le (endFree.nonempty marker firstAt.member)
  have whole := firstMatch_append_of_some endFree found more
  have modeThen : (push parser more).mode = .content channel := mode
  rw [SameTurn]
  by_cases positive : 0 < position
  · have front : (parser.buffer ++ more).take position = parser.buffer.take position :=
      List.take_append_of_le_length (by omega)
    have back : (parser.buffer ++ more).drop position = parser.buffer.drop position ++ more :=
      List.drop_append_of_le_length (by omega)
    have turned' : turn config (push parser more) = .ok ⟨true,
        delivered config channel ((push parser more).buffer.take position)
          ((push parser more).buffer.drop position) (push parser more),
        deltas config channel ((push parser more).buffer.take position) (push parser more)⟩ :=
      turn_text config modeThen whole positive
    rw [turned', turn_text config mode found positive, push]
    dsimp only
    rw [front, back]
    rfl
  · have here : position = 0 := Nat.eq_zero_of_not_pos positive
    rw [here] at found whole bound
    have turned' : turn config (push parser more) =
        (enter config channel marker (push parser more)).map fun ending =>
          ⟨true, ending.state, ending.log⟩ := turn_marker config modeThen whole
    rw [turned', turn_marker config mode found, enter_push config more (by omega)]
    cases enter config channel marker parser with
    | error failure => rfl
    | ok ending => rfl

theorem sameTurn_tool {closeAt : Nat} (mode : parser.mode = .tool)
    (found : find toolClose parser.buffer = some closeAt) (more : PyStr) :
    SameTurn config parser more := by
  have bound := (find_eq_some found).1.end_le (by decide)
  have whole := find_append_of_some (by decide) found more
  have front : (parser.buffer ++ more).take closeAt = parser.buffer.take closeAt :=
    List.take_append_of_le_length (by omega)
  have back : (parser.buffer ++ more).drop (closeAt + toolClose.length) =
      parser.buffer.drop (closeAt + toolClose.length) ++ more :=
    List.drop_append_of_le_length bound
  have turned : turn config parser = processTool config parser := by
    rw [turn, mode]
  have turned' : turn config (push parser more) = processTool config (push parser more) := by
    rw [turn, push]
    dsimp only
    rw [mode]
  rw [SameTurn, turned, turned', processTool, processTool, found]
  have buffer : (push parser more).buffer = parser.buffer ++ more := rfl
  rw [buffer, whole]
  dsimp only
  have same := @finishTool_push config { parser with
    toolBody := parser.toolBody ++ parser.buffer.take closeAt
    buffer := parser.buffer.drop (closeAt + toolClose.length) } more
  rw [push] at same
  dsimp only at same
  rw [front, back, push]
  dsimp only
  rw [same]
  cases finishTool config { parser with
      toolBody := parser.toolBody ++ parser.buffer.take closeAt
      buffer := parser.buffer.drop (closeAt + toolClose.length) } with
  | error failure => rfl
  | ok ending => rfl

/-! ## The state between turns -/

def opened (parser : Glm5IncrementalParser) : OpenChannel := parser.channels.opened

/-- Only the channel of the mode is open, and none in a tool. -/
structure Sound (parser : Glm5IncrementalParser) : Prop where
  unfinished : parser.finished = false
  channels : ∀ channel, parser.mode = .content channel → parser.channels.Coherent channel
  closed : parser.mode = .tool → parser.channels = .closed

theorem fresh_sound : Sound (fresh config) :=
  ⟨rfl, fun _ _ => ContentChannels.closed_coherent, fun _ => rfl⟩

/-- What a turn leaves, and that its events are well formed. -/
def Proper (parser : Glm5IncrementalParser) {α : Type}
    (ending : Ending Glm5IncrementalParser GenerationEvent α) : Prop :=
  Sound ending.state ∧ readEvents (opened parser) ending.log = some (opened ending.state)

theorem Sound.delivered {channel : Channel} (sound : Sound parser)
    (mode : parser.mode = .content channel) (text rest : PyStr) (value : Bool) :
    Proper parser ⟨value, delivered config channel text rest parser,
      deltas config channel text parser⟩ := by
  rcases @ContentChannels.Coherent.emit config.request.requestId _ _
    (sound.channels channel mode) text with
    ⟨coherent, reads⟩
  refine ⟨⟨sound.unfinished, ?_, ?_⟩, reads⟩
  · intro other modeThen
    cases mode.symm.trans modeThen
    exact coherent
  · intro modeThen
    cases mode.symm.trans modeThen

theorem Sound.enter {channel : Channel} {marker : PyStr}
    {ending : Ending Glm5IncrementalParser GenerationEvent Unit} (sound : Sound parser)
    (mode : parser.mode = .content channel)
    (entered : enter config channel marker parser = .ok ending) : Proper parser ending := by
  rcases @ContentChannels.Coherent.close config.request.requestId _ _
    (sound.channels channel mode) with
    ⟨closed, reads⟩
  rw [Glm5IncrementalParser.enter] at entered
  dsimp only at entered
  rw [closed] at entered
  split at entered
  · cases entered
    exact ⟨⟨sound.unfinished, fun _ _ => ContentChannels.closed_coherent, fun _ => rfl⟩, reads⟩
  · split at entered
    · cases entered
      exact ⟨⟨sound.unfinished, fun _ _ => ContentChannels.closed_coherent, fun _ => rfl⟩, reads⟩
    · cases entered
      exact ⟨⟨sound.unfinished, fun _ _ => ContentChannels.closed_coherent, fun _ => rfl⟩, reads⟩

theorem finishTool_proper {ending : Ending Glm5IncrementalParser GenerationEvent Unit}
    (unfinished : parser.finished = false) (closed : parser.channels = .closed)
    (finished : finishTool config parser = .ok ending) : Proper parser ending := by
  have shut : opened parser = none := by
    rw [opened, closed]
    rfl
  rw [finishTool] at finished
  dsimp only at finished
  cases parsed : parseToolBody parser.toolBody config.context.parameterTypes with
  | none =>
      rw [parsed] at finished
      cases finished
      refine ⟨⟨unfinished, ?_, fun _ => closed⟩, rfl⟩
      intro channel _
      exact closed ▸ ContentChannels.closed_coherent
  | some call =>
      rw [parsed] at finished
      dsimp only at finished
      cases published : config.request.publishCall parser.callIndex call with
      | error failure =>
          rw [published] at finished
          cases finished
      | ok events =>
          rw [published] at finished
          cases finished
          refine ⟨⟨unfinished, ?_, fun _ => closed⟩, ?_⟩
          · intro channel _
            dsimp only
            rw [closed]
            exact ContentChannels.closed_coherent
          · rw [shut, DialectRequest.publishCall_ok published, readEvents_callEvents]
            exact congrArg some shut.symm

theorem Sound.turn {ending : Ending Glm5IncrementalParser GenerationEvent Bool}
    (sound : Sound parser) (turned : turn config parser = .ok ending) : Proper parser ending := by
  cases mode : parser.mode with
  | tool =>
      have closed := sound.closed mode
      rw [Glm5IncrementalParser.turn, mode] at turned
      dsimp only at turned
      rw [processTool] at turned
      cases found : find toolClose parser.buffer with
      | some closeAt =>
          rw [found] at turned
          rcases map_eq_ok turned with ⟨last, finished, same⟩
          rw [← same]
          exact @finishTool_proper config { parser with
            toolBody := parser.toolBody ++ parser.buffer.take closeAt
            buffer := parser.buffer.drop (closeAt + toolClose.length) } _ sound.unfinished closed
              finished
      | none =>
          rw [found] at turned
          dsimp only at turned
          split at turned
          · cases turned
            refine ⟨⟨sound.unfinished, ?_, fun _ => closed⟩, rfl⟩
            intro channel other
            cases mode.symm.trans other
          · cases turned
            exact ⟨sound, rfl⟩
  | content channel =>
      cases found : firstMatch parser.buffer (markers config) with
      | some best =>
          rcases best with ⟨position, marker⟩
          by_cases positive : 0 < position
          · rw [turn_text config mode found positive] at turned
            cases turned
            exact sound.delivered config mode _ _ true
          · rw [Nat.eq_zero_of_not_pos positive] at found
            rw [turn_marker config mode found] at turned
            rcases map_eq_ok turned with ⟨last, entered, same⟩
            rw [← same]
            exact sound.enter config mode entered
      | none =>
          by_cases positive :
              0 < parser.buffer.length - longestPartial (markers config) parser.buffer
          · rw [turn_held config mode found positive] at turned
            cases turned
            exact sound.delivered config mode _ _ true
          · rw [turn_rests config mode found positive] at turned
            cases turned
            exact ⟨sound, rfl⟩

theorem readable : (machine config).Readable Sound opened readEvent where
  push _ _ sound := ⟨sound.unfinished, sound.channels, sound.closed⟩
  view_push _ _ := rfl
  turn _ _ sound turned := sound.turn config turned

/-! ## Chunks -/

/-- What a turn does: it acts on a marker that is there, it moves a clear piece, or it rests. -/
theorem turn_cases (parser : Glm5IncrementalParser) :
    ((∀ more, SameTurn config parser more) ∧
        ∀ ending, turn config parser = .ok ending → ending.value = true) ∨
      (∃ channel before after, parser.mode = .content channel ∧ parser.buffer = before ++ after ∧
        Clear (markers config) before after ∧ turn config parser =
          .ok ⟨true, delivered config channel before after parser,
            deltas config channel before parser⟩) ∨
      (∃ before after, parser.mode = .tool ∧ parser.buffer = before ++ after ∧
        Clear [toolClose] before after ∧
          turn config parser = .ok ⟨true, absorbed before after parser, []⟩) ∨
      turn config parser = .ok ⟨false, parser, []⟩ := by
  cases mode : parser.mode with
  | tool =>
      have turns : turn config parser = processTool config parser := by
        rw [turn, mode]
      cases found : find toolClose parser.buffer with
      | some closeAt =>
          left
          refine ⟨sameTurn_tool config mode found, ?_⟩
          intro ending turned
          rw [turns, processTool, found] at turned
          rcases map_eq_ok turned with ⟨last, -, same⟩
          rw [← same]
      | none =>
          have missing : firstMatch parser.buffer [toolClose] = none := by
            rw [firstMatch_eq_none (by decide)]
            intro marker member
            rw [List.mem_singleton.mp member]
            exact (find_eq_none_iff (by decide)).mp found
          by_cases positive : 0 < parser.buffer.length - longestPartial [toolClose] parser.buffer
          · right; right; left
            refine ⟨_, _, rfl, (List.take_append_drop _ _).symm,
              clear_of_no_match (by decide) missing, ?_⟩
            rw [turns, processTool, found]
            dsimp only
            rw [if_pos positive]
            rfl
          · right; right; right
            rw [turns, processTool, found]
            dsimp only
            rw [if_neg positive]
  | content channel =>
      cases found : firstMatch parser.buffer (markers config) with
      | some best =>
          rcases best with ⟨position, marker⟩
          left
          refine ⟨sameTurn_plain config mode found, ?_⟩
          intro ending turned
          by_cases positive : 0 < position
          · rw [turn_text config mode found positive] at turned
            cases turned
            rfl
          · rw [Nat.eq_zero_of_not_pos positive] at found
            rw [turn_marker config mode found] at turned
            rcases map_eq_ok turned with ⟨last, -, same⟩
            rw [← same]
      | none =>
          by_cases positive :
              0 < parser.buffer.length - longestPartial (markers config) parser.buffer
          · right; left
            exact ⟨channel, _, _, rfl, (List.take_append_drop _ _).symm,
              clear_of_no_match (markers_endFree config).nonempty found,
              turn_held config mode found positive⟩
          · exact .inr (.inr (.inr (turn_rests config mode found positive)))

theorem turned_alike {ending : Ending Glm5IncrementalParser GenerationEvent Bool} (more : PyStr)
    (turned : turn config parser = .ok ending) :
    Alike deltaJoining ((machine config).drain (push parser more))
      (((machine config).drain (push ending.state more)).map (Ending.after ending.log)) := by
  rcases turn_cases config parser with
    ⟨same, progresses⟩ | ⟨channel, before, after, mode, buffer, clear, moved⟩ |
      ⟨before, after, mode, buffer, clear, moved⟩ | rests
  · have turned' : (machine config).turn (push parser more) =
        .ok (Ending.relocate (push · more) ending) := by
      have equal := same more
      rw [SameTurn, turned] at equal
      exact equal
    rw [Draining.drain_of_progress turned' (progresses ending turned)]
    exact Alike.refl _
  · have whole : (push parser more).buffer = before ++ (after ++ more) := by
      rw [push, buffer, List.append_assoc]
    have modeThen : (push parser more).mode = .content channel := mode
    rw [moved] at turned
    cases turned
    exact drain_clear config modeThen whole (clear.more more)
  · have whole : (push parser more).buffer = before ++ (after ++ more) := by
      rw [push, buffer, List.append_assoc]
    have modeThen : (push parser more).mode = .tool := mode
    rw [moved] at turned
    cases turned
    rw [map_drain_nil, drain_clear_tool config modeThen whole (clear.more more)]
    exact Alike.refl _
  · rw [rests] at turned
    cases turned
    rw [map_drain_nil]
    exact Alike.refl _

theorem failed_push {failure : ParserFailure} (more : PyStr)
    (failed : turn config parser = .error failure) :
    turn config (push parser more) = .error failure := by
  rcases turn_cases config parser with
    ⟨same, -⟩ | ⟨_, _, _, -, -, -, moved⟩ | ⟨_, _, -, -, -, moved⟩ | rests
  · rw [same more, failed]
    rfl
  · rw [moved] at failed
    cases failed
  · rw [moved] at failed
    cases failed
  · rw [rests] at failed
    cases failed

theorem rested {ending : Ending Glm5IncrementalParser GenerationEvent Bool}
    (turned : turn config parser = .ok ending) (stops : ending.value = false) :
    turn config ending.state = .ok ⟨false, ending.state, []⟩ := by
  rcases turn_cases config parser with
    ⟨-, progresses⟩ | ⟨_, _, _, -, -, -, moved⟩ | ⟨_, _, -, -, -, moved⟩ | rests
  · rw [progresses ending turned] at stops
    cases stops
  · rw [moved] at turned
    cases turned
    cases stops
  · rw [moved] at turned
    cases turned
    cases stops
  · rw [rests] at turned
    cases turned
    exact rests

theorem cutFree : (machine config).CutFree deltaJoining Sound fun _ => True where
  push _ _ sound := ⟨sound.unfinished, sound.channels, sound.closed⟩
  turn _ _ sound turned := (sound.turn config turned).1
  failed _ _ more _ _ failed := failed_push config more failed
  turned _ _ more _ _ turned := ⟨turned_alike config more turned, trivial⟩
  rested _ _ _ turned stops := rested config turned stops

/-! ## Runs -/

theorem feedChunks_eq (chunks : List PyStr) (sound : Sound parser) :
    feedChunks config chunks parser = (machine config).feedAll chunks parser := by
  induction chunks generalizing parser with
  | nil => rfl
  | cons chunk chunks induction =>
      have first : feed config chunk parser = (machine config).feed chunk parser := by
        rw [feed, sound.unfinished]
        rfl
      rw [feedChunks, Draining.feedAll]
      cases fed : (machine config).feed chunk parser with
      | error failure =>
          rw [fed] at first
          rw [Emitting.bind_run_error first, Emitting.bind_run_error fed]
      | ok ending =>
          rw [fed] at first
          have soundThen := (cutFree config).drain_good
            (⟨sound.unfinished, sound.channels, sound.closed⟩ : Sound (push parser chunk)) fed
          rw [Emitting.bind_run_ok first, Emitting.bind_run_ok fed, induction soundThen.1]

theorem fresh_rests : (machine config).turn (fresh config) = .ok ⟨false, fresh config, []⟩ := by
  have missing : firstMatch (fresh config).buffer (markers config) = none := by
    rw [firstMatch_eq_none (markers_endFree config).nonempty]
    intro marker member position occurs
    have bound := occurs.end_le ((markers_endFree config).nonempty marker member)
    have positive := List.length_pos_iff.mpr ((markers_endFree config).nonempty marker member)
    have empty : (fresh config).buffer.length = 0 := rfl
    omega
  apply turn_rests config rfl missing
  intro positive
  have empty : (fresh config).buffer.length = 0 := rfl
  omega

theorem run_eq (chunks : List PyStr) :
    run config chunks =
      ((machine config).feedAll chunks >>= fun _ => finish config) (fresh config) := by
  rw [run, Emitting.bind_run, Emitting.bind_run, Emitting.andThen, Emitting.andThen,
    feedChunks_eq config chunks (fresh_sound config)]

theorem finish_reads {ending : Ending Glm5IncrementalParser GenerationEvent Bool}
    (sound : Sound parser) (finished : finish config parser = .ok ending) :
    readEvents (opened parser) ending.log = some none := by
  rw [finish, sound.unfinished] at finished
  dsimp only [Bool.false_eq_true, if_false] at finished
  cases mode : parser.mode with
  | tool =>
      rw [mode] at finished
      cases finished
      rw [opened, sound.closed mode]
      rfl
  | content channel =>
      rw [mode] at finished
      cases finished
      rcases @ContentChannels.Coherent.emit config.request.requestId _ _
        (sound.channels channel mode) (if
          ([thinkOpen, thinkClose].any fun marker => decide (parser.buffer <+: marker)) ||
            (config.context.toolsEnabled && decide (parser.buffer <+: toolOpen)) then []
          else parser.buffer) with ⟨coherent, reads⟩
      rcases @ContentChannels.Coherent.close config.request.requestId _ _ coherent with
        ⟨closed, completes⟩
      dsimp only
      rw [readEvents_append, opened, reads]
      exact completes

/-- The chunks do not show. -/
theorem run_chunks (chunks : List PyStr) :
    Alike deltaJoining (run config chunks) (run config [chunks.flatten]) := by
  rw [run_eq, run_eq]
  exact (cutFree config).feedAll_bind _ chunks (fresh_sound config) trivial (fresh_rests config)

/-- One channel is open at a time, and it is completed with the text of its deltas. -/
theorem run_reads {chunks : List PyStr}
    {ending : Ending Glm5IncrementalParser GenerationEvent Bool}
    (ran : run config chunks = .ok ending) : readEvents none ending.log = some none := by
  rw [run_eq] at ran
  rcases Emitting.bind_eq_ok ran with ⟨middle, last, fed, finished, same⟩
  rcases (readable config).feedAll chunks (fresh_sound config) fed with ⟨sound, reads⟩
  rw [same, Ending.after, readEvents_append]
  have start : readEvents none middle.log = some (opened middle.state) := reads
  rw [start]
  exact finish_reads config sound finished

end ExQServe.Model.Glm5.Glm5IncrementalParser
