import ExQServe.Foundation.TaggedText
import ExQServe.Model.Glm5.Chunking

/-! # What a parser without tools reads

Without tools the GLM-5 parser knows the two markers of the reasoning envelope. Its run on a text
that does not end within one of them shows the segments of the text: the runs of characters
between markers, each in its channel. -/

namespace ExQServe.Model

open ExQServe.Search ExQServe.Emission

/-! ## Segments -/

abbrev Segment := Channel × PyStr

namespace Channel

def started (requestId : PyStr) : Channel → GenerationEvent
  | .text => .textStarted requestId
  | .reasoning => .reasoningStarted requestId

def delta (requestId text : PyStr) : Channel → GenerationEvent
  | .text => .textDelta requestId text
  | .reasoning => .reasoningDelta requestId text

def completed (requestId text : PyStr) : Channel → GenerationEvent
  | .text => .textCompleted requestId text
  | .reasoning => .reasoningCompleted requestId text

end Channel

def segmentEvents (requestId : PyStr) (segment : Segment) : List GenerationEvent :=
  [segment.1.started requestId, segment.1.delta requestId segment.2,
    segment.1.completed requestId segment.2]

theorem segmentEvents_inj {requestId : PyStr} {left right : List Segment}
    (same : left.flatMap (segmentEvents requestId) = right.flatMap (segmentEvents requestId)) :
    left = right := by
  induction left generalizing right with
  | nil =>
      cases right with
      | nil => rfl
      | cons segment right => simp [segmentEvents] at same
  | cons segment left induction =>
      cases right with
      | nil => simp [segmentEvents] at same
      | cons other right =>
          simp only [List.flatMap_cons, segmentEvents, List.cons_append, List.nil_append,
            List.cons.injEq] at same
          rcases same with ⟨-, delta, -, rest⟩
          have equal : segment = other := by
            rcases segment with ⟨channel, text⟩
            rcases other with ⟨channel', text'⟩
            cases channel <;> cases channel' <;> simp_all [Channel.delta]
          rw [equal, induction rest]

namespace ContentChannels

variable {requestId : PyStr} {channel : Channel}

def holding : Channel → PyStr → ContentChannels
  | .text, content => ⟨!content.isEmpty, content, false, []⟩
  | .reasoning, content => ⟨false, [], !content.isEmpty, content⟩

def opening (requestId : PyStr) (channel : Channel) (content : PyStr) : List GenerationEvent :=
  if content = [] then [] else [channel.started requestId, channel.delta requestId content]

def closing (requestId : PyStr) (channel : Channel) (content : PyStr) : List GenerationEvent :=
  if content = [] then [] else [channel.completed requestId content]

@[simp] theorem holding_nil (channel : Channel) : holding channel [] = closed := by
  cases channel <;> rfl

theorem emitContent_holding_fst (content text : PyStr) :
    (emitContent requestId channel text (holding channel content)).1 =
      holding channel (content ++ text) := by
  cases text with
  | nil => simp
  | cons char text => cases channel <;> simp [emitContent, holding]

theorem closeChannel_holding (content : PyStr) :
    closeChannel requestId channel (holding channel content) =
      (closed, closing requestId channel content) := by
  cases content with
  | nil => cases channel <;> rfl
  | cons char content => cases channel <;> rfl

theorem join_delta (first second : PyStr) :
    deltaJoining.join (channel.delta requestId first) (channel.delta requestId second) =
      some (channel.delta requestId (first ++ second)) := by
  cases channel <;>
    simp [Channel.delta, deltaJoining, Joining.ofPieces, Joining.joinPieces, deltaPiece, wholeDelta]

/-- Further content is merged into what opened the channel. -/
theorem merge_opening (content text : PyStr) :
    deltaJoining.merge (opening requestId channel content ++
        (emitContent requestId channel text (holding channel content)).2) =
      deltaJoining.merge (opening requestId channel (content ++ text)) := by
  cases text with
  | nil => simp
  | cons char text =>
      cases content with
      | nil =>
          cases channel <;> simp [opening, emitContent, holding, Channel.started, Channel.delta]
      | cons first content =>
          have joined := @join_delta requestId channel (first :: content) (char :: text)
          have shown : (emitContent requestId channel (char :: text)
              (holding channel (first :: content))).2 =
                [channel.delta requestId (char :: text)] := by
            cases channel <;> simp [emitContent, holding, Channel.delta]
          rw [shown]
          exact @Joining.merge_append_congr _ deltaJoining [channel.started requestId] _
            [channel.delta requestId (first :: content), channel.delta requestId (char :: text)] _
            rfl (deltaJoining.merge_join joined)

theorem merge_segment (channel : Channel) (content : PyStr) (later : List GenerationEvent) :
    deltaJoining.merge (opening requestId channel content ++
        (closing requestId channel content ++ later)) =
      (if content = [] then [] else segmentEvents requestId (channel, content)) ++
        deltaJoining.merge later := by
  by_cases empty : content = []
  · simp [opening, closing, empty]
  · have started : ∀ other,
        deltaJoining.join (channel.started requestId) other = none := by
      intro other
      cases channel <;> rfl
    have ended : ∀ other, deltaJoining.join (channel.completed requestId content) other = none := by
      intro other
      cases channel <;> rfl
    have behind : deltaJoining.join (channel.delta requestId content)
        (channel.completed requestId content) = none := by
      cases channel <;> rfl
    have alone : ∀ log, deltaJoining.cons (channel.completed requestId content) log =
        channel.completed requestId content :: log := fun log =>
      @Joining.cons_append_apart _ deltaJoining _ [] log fun next _ => ended next
    have first : ∀ log, deltaJoining.cons (channel.started requestId) log =
        channel.started requestId :: log := fun log =>
      @Joining.cons_append_apart _ deltaJoining _ [] log fun next _ => started next
    have middle : ∀ log, deltaJoining.cons (channel.delta requestId content)
        (channel.completed requestId content :: log) =
          channel.delta requestId content :: channel.completed requestId content :: log := by
      intro log
      simp only [Joining.cons, behind]
    simp [opening, closing, empty, segmentEvents, alone, middle, first]

end ContentChannels

namespace Glm5

namespace Glm5IncrementalParser

variable (config : Glm5Config) {parser : Glm5IncrementalParser}

/-! ## Reading -/

def emptied (parser : Glm5IncrementalParser) : Glm5IncrementalParser := { parser with buffer := [] }

def channel (parser : Glm5IncrementalParser) : Channel :=
  match parser.mode with
  | .content channel => channel
  | .tool => .text

def behind (marker : PyStr) : Channel := if marker = thinkOpen then .reasoning else .text

def reader : Reader Glm5IncrementalParser GenerationEvent PyChar where
  emit parser text :=
    let (channels, events) :=
      parser.channels.emitContent config.request.requestId parser.channel text
    ({ parser with channels := channels }, events)
  enter parser marker :=
    let (channels, events) := parser.channels.closeChannel config.request.requestId parser.channel
    ({ parser with channels := channels, mode := .content (behind marker) }, events)

structure Reading (parser : Glm5IncrementalParser) : Prop where
  mode : parser.mode = .content parser.channel
  unfinished : parser.finished = false
  complete : parser.hadIncompleteTool = false

variable {config}

theorem reader_smooth : (reader config).Smooth deltaJoining where
  emit_nil _ := rfl
  emit_cons parser char text := by
    have same := @ContentChannels.emitContent_append_fst config.request.requestId parser.channel
      parser.channels [char] text
    simp only [List.singleton_append] at same
    simp only [reader, same]
    rfl
  emit_log parser char text :=
    @ContentChannels.emitContent_append_snd config.request.requestId parser.channel
      parser.channels [char] text

theorem mem_markers (plain : config.context.toolsEnabled = false) {marker : PyStr} :
    marker ∈ markers config ↔ marker = thinkOpen ∨ marker = thinkClose := by
  simp [markers, plain]

theorem tagged (plain : config.context.toolsEnabled = false) :
    Tagged (machine config) (markers config) (reader config) Reading buffer emptied where
  push parser more reading := ⟨⟨reading.mode, reading.unfinished, reading.complete⟩, rfl, rfl⟩
  emits parser before after reading nonempty split found := by
    have front : parser.buffer.take before.length = before := by rw [split, List.take_left]
    have back : parser.buffer.drop before.length = after := by rw [split, List.drop_left]
    have positive := List.length_pos_iff.mpr nonempty
    refine ⟨delivered config parser.channel before after parser, ?_,
      ⟨reading.mode, reading.unfinished, reading.complete⟩, rfl, rfl⟩
    rcases found with ⟨marker, found⟩ | ⟨missing, length⟩
    · have turned := turn_text config reading.mode found positive
      rw [front, back] at turned
      exact turned
    · rw [length] at front back positive
      have turned := turn_held config reading.mode missing positive
      rw [front, back] at turned
      exact turned
  enters parser marker reading found := by
    have known := (mem_markers plain).mp (firstAt_of_firstMatch found).member
    refine ⟨{ (reader config).enter parser marker |>.1 with
      buffer := parser.buffer.drop marker.length }, ?_,
        ⟨rfl, reading.unfinished, reading.complete⟩, rfl, rfl⟩
    have turned : (machine config).turn parser = _ := turn_marker config reading.mode found
    rw [turned]
    rcases known with known | known
    · rw [known]
      rfl
    · rw [known]
      rfl
  rests parser reading missing rests := turn_rests config reading.mode missing rests

def readAll (config : Glm5Config) (parser : Glm5IncrementalParser)
    (symbols : List (Symbol PyChar)) : List GenerationEvent :=
  ((reader config).read parser symbols).2 ++
    (((reader config).read parser symbols).1.channels.closeChannel config.request.requestId
      ((reader config).read parser symbols).1.channel).2

theorem finish_read (reading : Reading parser) (empty : parser.buffer = []) :
    ∃ next, finish config parser = .ok ⟨false, next,
      (parser.channels.closeChannel config.request.requestId parser.channel).2⟩ := by
  have nothing : ([thinkOpen, thinkClose].any fun marker => decide (([] : PyStr) <+: marker)) =
      true := by simp
  rw [finish, reading.unfinished, reading.mode]
  simp only [Bool.false_eq_true, if_false, empty, nothing, Bool.true_or, if_true,
    ContentChannels.emitContent_nil, reading.complete, Bool.not_true, Bool.false_and,
    Bool.or_false, List.nil_append]
  exact ⟨_, rfl⟩

/-- A run shows what is read from the symbols of the text. -/
theorem run_reads_symbols (plain : config.context.toolsEnabled = false) (chunks : List PyStr)
    (whole : EndsWhole (markers config) chunks.flatten) :
    observed (run config chunks) = .ok (mergeDeltas (readAll config (fresh config)
      (symbolsOf (markers config) chunks.flatten)), false) := by
  have reading : Reading (fresh config) := ⟨rfl, rfl, rfl⟩
  rcases (tagged plain).feedAll_whole reader_smooth
    (markers_endFree config) chunks reading rfl whole
    with ⟨next, log, fed, readingThen, empty, shown, logged⟩
  rcases @finish_read config next readingThen empty with ⟨last, finished⟩
  have ran : run config chunks = .ok ⟨false, last,
      log ++ (next.channels.closeChannel config.request.requestId next.channel).2⟩ := by
    rw [run_eq, Emitting.bind_run_ok fed]
    dsimp only
    rw [finished]
    rfl
  have same : emptied next = next := by
    rw [emptied, ← empty]
  rw [ran]
  refine congrArg Except.ok (Prod.ext ?_ rfl)
  apply deltaJoining.merge_append_congr logged
  rw [← same, shown]
  rfl

end Glm5IncrementalParser

/-! ## Segments of symbols -/

/-- A segment that is over; an empty one is not shown. -/
def flushed (channel : Channel) (content : PyStr) : List Segment :=
  if content = [] then [] else [(channel, content)]

def segmentsFrom : Channel → PyStr → List (Symbol PyChar) → List Segment
  | channel, content, [] => flushed channel content
  | channel, content, .char char :: symbols => segmentsFrom channel (content ++ [char]) symbols
  | channel, content, .tag marker :: symbols =>
      flushed channel content ++
        segmentsFrom (Glm5IncrementalParser.behind marker) [] symbols

theorem merge_flushed (requestId : PyStr) (channel : Channel) (content : PyStr)
    (later : List GenerationEvent) :
    mergeDeltas (ContentChannels.opening requestId channel content ++
        (ContentChannels.closing requestId channel content ++ later)) =
      (flushed channel content).flatMap (segmentEvents requestId) ++ mergeDeltas later := by
  rw [mergeDeltas, ContentChannels.merge_segment, flushed]
  split <;> simp [mergeDeltas]

theorem channel_of_mode {parser : Glm5IncrementalParser} {channel : Channel}
    (mode : parser.mode = .content channel) : parser.channel = channel := by
  rw [Glm5IncrementalParser.channel, mode]

section Segments

variable {config : Glm5Config} {parser : Glm5IncrementalParser} {channel : Channel}

theorem readAll_char (mode : parser.mode = .content channel) (char : PyChar)
    (symbols : List (Symbol PyChar)) :
    Glm5IncrementalParser.readAll config parser (.char char :: symbols) =
      (parser.channels.emitContent config.request.requestId channel [char]).2 ++
        Glm5IncrementalParser.readAll config
          ((Glm5IncrementalParser.reader config).emit parser [char]).1 symbols := by
  rw [Glm5IncrementalParser.readAll, Reader.read, List.append_assoc, ← channel_of_mode mode]
  rfl

theorem readAll_tag (mode : parser.mode = .content channel) (marker : PyStr)
    (symbols : List (Symbol PyChar)) :
    Glm5IncrementalParser.readAll config parser (.tag marker :: symbols) =
      (parser.channels.closeChannel config.request.requestId channel).2 ++
        Glm5IncrementalParser.readAll config
          ((Glm5IncrementalParser.reader config).enter parser marker).1 symbols := by
  rw [Glm5IncrementalParser.readAll, Reader.read, List.append_assoc, ← channel_of_mode mode]
  rfl

theorem readAll_segments (content : PyStr) (mode : parser.mode = .content channel)
    (channels : parser.channels = .holding channel content) (symbols : List (Symbol PyChar)) :
    mergeDeltas (ContentChannels.opening config.request.requestId channel content ++
        Glm5IncrementalParser.readAll config parser symbols) =
      (segmentsFrom channel content symbols).flatMap (segmentEvents config.request.requestId) := by
  induction symbols generalizing parser channel content with
  | nil =>
      have ended := merge_flushed config.request.requestId channel content []
      rw [List.append_nil] at ended
      rw [segmentsFrom, Glm5IncrementalParser.readAll, Reader.read, List.nil_append,
        channel_of_mode mode, channels, ContentChannels.closeChannel_holding, ended]
      simp [mergeDeltas]
  | cons symbol symbols induction =>
      cases symbol with
      | char char =>
          have later : ((Glm5IncrementalParser.reader config).emit parser [char]).1.channels =
              .holding channel (content ++ [char]) := by
            simp only [Glm5IncrementalParser.reader, channels, channel_of_mode mode]
            exact ContentChannels.emitContent_holding_fst content [char]
          have stays : ((Glm5IncrementalParser.reader config).emit parser [char]).1.mode =
              .content channel := mode
          rw [segmentsFrom, readAll_char mode, ← List.append_assoc,
            ← induction (content ++ [char]) stays later]
          apply deltaJoining.merge_append_congr ?_ rfl
          rw [channels]
          exact ContentChannels.merge_opening content [char]
      | tag marker =>
          have later : ((Glm5IncrementalParser.reader config).enter parser marker).1.channels =
              .holding (Glm5IncrementalParser.behind marker) [] := by
            simp [Glm5IncrementalParser.reader, channels, channel_of_mode mode,
              ContentChannels.closeChannel_holding]
          rw [segmentsFrom, readAll_tag mode, channels, ContentChannels.closeChannel_holding,
            merge_flushed, List.flatMap_append, ← induction [] rfl later]
          rfl

/-- The segments that a run of the parser shows. -/
theorem run_segments (plain : config.context.toolsEnabled = false)
    (starts : config.startInReasoning = true) (chunks : List PyStr)
    (whole : EndsWhole (Glm5IncrementalParser.markers config) chunks.flatten) :
    observed (Glm5IncrementalParser.run config chunks) = .ok
      ((segmentsFrom .reasoning [] (symbolsOf (Glm5IncrementalParser.markers config)
        chunks.flatten)).flatMap (segmentEvents config.request.requestId), false) := by
  have mode : (Glm5IncrementalParser.fresh config).mode = .content .reasoning := by
    simp [Glm5IncrementalParser.fresh, starts]
  rw [Glm5IncrementalParser.run_reads_symbols plain chunks whole, ← readAll_segments [] mode rfl]
  rfl

end Segments

end Glm5

end ExQServe.Model
