import ExQServe.Protocol.AnthropicOutput

/-! # The two renderings of a message

A streamed message, put together again, is the message of a request that is not streamed. The
blocks of a stream follow one another, although a call may be completed late: what comes in
between is deferred. -/

namespace ExQServe.Anthropic

open ExQServe.Model ExQServe.Canonical

section

variable (config : MessageConfig) (loads : PyStr → Option JsonValue)

/-- One piece after the other; only the Completed events of calls may be late. They come in the
order of the calls, for arguments that are a JSON object. -/
def messageRules : Rules where
  apart := True
  starts output _ index := index ∉ output.callIndices ∧ ∀ kind, output.openAt kind = none
  continues output position := position + 1 = output.pieces.length
  completes output position before arguments :=
    before = arguments ∧ (∃ entries, loads arguments = some (.dict entries)) ∧
      ∀ earlier piece, earlier < position → output.pieces[earlier]? = some piece →
        piece.done = true

/-- What the stream says of a block of the message, under its index. -/
inductive Streams (index : Nat) : ContentBlock → List StreamEvent → Prop
  | thinking (deltas : List PyStr) :
      Streams index (.thinking deltas.flatten config.signature)
        (.blockStart index (.thinking [] []) ::
          (deltas.map fun text => .blockDelta index (.thinking text)) ++
          [.blockDelta index (.signature config.signature), .blockStop index])
  | text (deltas : List PyStr) :
      Streams index (.text deltas.flatten)
        (.blockStart index (.text []) ::
          (deltas.map fun text => .blockDelta index (.text text)) ++ [.blockStop index])
  | toolUse {id name : PyStr} {input : JsonObject} (deltas : List PyStr)
      (reads : loads deltas.flatten = some (.dict input)) :
      Streams index (.toolUse id name input)
        (.blockStart index (.toolUse id name []) ::
          (deltas.map fun text => .blockDelta index (.inputJson text)) ++ [.blockStop index])

/-! ## The message -/

def argumentsOf (arguments : PyStr) : JsonObject :=
  match loads arguments with
  | some (.dict entries) => entries
  | _ => []

def shownText : Piece → PyStr
  | .segment kind text _ => if config.hides kind then [] else text
  | .call _ _ _ arguments _ => arguments

def blockOf : Piece → ContentBlock
  | .segment .reasoning text done =>
      .thinking (shownText config (.segment .reasoning text done)) config.signature
  | .segment .message text done => .text (shownText config (.segment .message text done))
  | .call callId name _ arguments done =>
      .toolUse callId name (if done then argumentsOf loads arguments else [])

end

def Reads (loads : PyStr → Option JsonValue) : Piece → Prop
  | .call _ _ _ arguments true => ∃ entries, loads arguments = some (.dict entries)
  | _ => True

def usageAfter (usage : Option TokenUsage) : ServingEvent → Option TokenUsage
  | .usageUpdated _ updated => some updated
  | _ => usage

variable {config : MessageConfig} {loads : PyStr → Option JsonValue} {output next : Output}
  {event : ServingEvent}

namespace AnthropicMessageAccumulator

@[simp] theorem current_setCurrent (accumulator : AnthropicMessageAccumulator)
    (index : Option Nat) (kind : SegmentKind) :
    (accumulator.setCurrent index kind).current =
      Function.update accumulator.current kind index := by
  ext other
  cases kind <;> cases other <;> rfl

@[simp] theorem content_setCurrent (accumulator : AnthropicMessageAccumulator)
    (index : Option Nat) (kind : SegmentKind) :
    (accumulator.setCurrent index kind).content = accumulator.content := by
  cases kind <;> rfl

@[simp] theorem toolBlocks_setCurrent (accumulator : AnthropicMessageAccumulator)
    (index : Option Nat) (kind : SegmentKind) :
    (accumulator.setCurrent index kind).toolBlocks = accumulator.toolBlocks := by
  cases kind <;> rfl

@[simp] theorem usage_setCurrent (accumulator : AnthropicMessageAccumulator)
    (index : Option Nat) (kind : SegmentKind) :
    (accumulator.setCurrent index kind).usage = accumulator.usage := by
  cases kind <;> rfl

@[simp] theorem error_setCurrent (accumulator : AnthropicMessageAccumulator)
    (index : Option Nat) (kind : SegmentKind) :
    (accumulator.setCurrent index kind).error = accumulator.error := by
  cases kind <;> rfl

end AnthropicMessageAccumulator

structure Accumulates (config : MessageConfig) (loads : PyStr → Option JsonValue)
    (accumulator : AnthropicMessageAccumulator) (output : Output) : Prop where
  content : accumulator.content = output.pieces.map (blockOf config loads)
  current : accumulator.current = output.openAt
  calls : ∀ position piece index, output.pieces[position]? = some piece →
    piece.index? = some index → accumulator.toolBlocks.get? index = some position
  reads : ∀ piece ∈ output.pieces, Reads loads piece
  unfailed : accumulator.error = none

namespace Accumulates

variable {accumulator : AnthropicMessageAccumulator}

theorem new : Accumulates config loads .new .start where
  content := rfl
  current := by
    ext kind
    cases kind <;> rfl
  calls _ _ _ found := by cases found
  reads _ member := by cases member
  unfailed := rfl

theorem length (holds : Accumulates config loads accumulator output) :
    accumulator.content.length = output.pieces.length := by
  rw [holds.content, List.length_map]

/-- The block of a call stays when a piece is put in place of one with the same index. -/
theorem calls_set (holds : Accumulates config loads accumulator output) {position : Nat}
    {old new : Piece} (found : output.pieces[position]? = some old)
    (same : new.index? = old.index?) (other : Nat) (piece : Piece) (index : Nat)
    (there : (output.pieces.set position new)[other]? = some piece)
    (indexed : piece.index? = some index) : accumulator.toolBlocks.get? index = some other := by
  rw [List.getElem?_set] at there
  by_cases here : position = other
  · subst here
    rw [if_pos rfl, if_pos (List.getElem?_eq_some_iff.mp found).choose] at there
    cases there
    exact holds.calls position old index found (same ▸ indexed)
  · rw [if_neg here] at there
    exact holds.calls other piece index there indexed

theorem reads_set (holds : Accumulates config loads accumulator output) {position : Nat}
    {new : Piece} (reads : Reads loads new) (piece : Piece)
    (member : piece ∈ output.pieces.set position new) : Reads loads piece := by
  rcases List.mem_or_eq_of_mem_set member with old | rfl
  · exact holds.reads piece old
  · exact reads

/-- The block of a new piece is the one behind the others. -/
theorem calls_append (holds : Accumulates config loads accumulator output) {new : Piece}
    {blocks : Dict Nat Nat}
    (old : ∀ (position : Nat) (piece : Piece) (index : Nat),
      output.pieces[position]? = some piece → piece.index? = some index →
        blocks.get? index = accumulator.toolBlocks.get? index)
    (here : ∀ index, new.index? = some index → blocks.get? index = some output.pieces.length)
    (position : Nat) (piece : Piece) (index : Nat)
    (there : (output.pieces ++ [new])[position]? = some piece)
    (indexed : piece.index? = some index) : blocks.get? index = some position := by
  rcases Nat.lt_trichotomy position output.pieces.length with inside | rfl | outside
  · rw [List.getElem?_append_left inside] at there
    rw [old position piece index there indexed]
    exact holds.calls position piece index there indexed
  · rw [List.getElem?_concat_length] at there
    cases there
    exact here index indexed
  · rw [List.getElem?_eq_none (by simp; omega)] at there
    cases there

/-- A segment is written on. -/
theorem write (holds : Accumulates config loads accumulator output) {kind : SegmentKind}
    {position : Nat} {before : PyStr} (current : output.openAt kind = some position)
    (piece : output.pieces[position]? = some (.segment kind before false))
    (change : PyStr → PyStr) (done : Bool) :
    Accumulates config loads (accumulator.write config kind change)
        (output.set position (.segment kind (change before) done)) ∧
      (accumulator.write config kind change).usage = accumulator.usage := by
  have here : accumulator.current kind = some position :=
    (congrFun holds.current kind).trans current
  have ensured : accumulator.ensure config kind = (accumulator, position) := by
    rw [AnthropicMessageAccumulator.ensure, here]
  rw [AnthropicMessageAccumulator.write, ensured]
  dsimp only
  split
  · rename_i hidden
    refine ⟨⟨?_, holds.current, holds.calls_set piece rfl, holds.reads_set trivial,
      holds.unfailed⟩, rfl⟩
    have same : blockOf config loads (.segment kind before false) =
        blockOf config loads (.segment kind (change before) done) := by
      cases kind <;> simp [blockOf, shownText, hidden]
    rw [holds.content, Output.set_pieces, set_map piece same]
  · rename_i shown
    refine ⟨⟨?_, holds.current, holds.calls_set piece rfl, holds.reads_set trivial,
      holds.unfailed⟩, rfl⟩
    rw [AnthropicMessageAccumulator.modifyBlock, holds.content, Output.set_pieces]
    apply modify_map piece
    cases kind <;> simp [blockOf, shownText, shown, ContentBlock.mapText]

theorem step (holds : Accumulates config loads accumulator output)
    (step : Step (messageRules loads) output event next) :
    ∃ after, accumulator.consume config loads event = .ok after ∧
      Accumulates config loads after next ∧ after.usage = usageAfter accumulator.usage event := by
  cases step with
  | started kind requestId closed apart =>
      have absent : accumulator.current kind = none := (congrFun holds.current kind).trans closed
      have consumed : accumulator.consume config loads (.semantic (kind.started requestId)) =
          .ok (accumulator.ensure config kind).1 := by cases kind <;> rfl
      rw [AnthropicMessageAccumulator.ensure, absent] at consumed
      refine ⟨_, consumed, ⟨?_, ?_, ?_, ?_, ?_⟩, ?_⟩
      · cases kind <;>
          simp [AnthropicMessageAccumulator.appendBlock, holds.content, blockOf, shownText,
            AnthropicMessageAccumulator.emptyBlock]
      · rw [AnthropicMessageAccumulator.current_setCurrent, holds.length, Output.point_openAt,
          Output.append_openAt, ← holds.current]
        rfl
      · rw [AnthropicMessageAccumulator.toolBlocks_setCurrent]
        exact holds.calls_append (fun _ _ _ _ _ => rfl) fun _ absurd => by cases absurd
      · simp only [Output.point_pieces, Output.append_pieces, List.mem_append, List.mem_singleton]
        rintro piece (old | rfl)
        · exact holds.reads piece old
        · exact trivial
      · rw [AnthropicMessageAccumulator.error_setCurrent]
        exact holds.unfailed
      · cases kind <;> exact AnthropicMessageAccumulator.usage_setCurrent _ _ _
  | @delta kind requestId text position before current piece continues =>
      have consumed : accumulator.consume config loads (.semantic (kind.delta requestId text)) =
          .ok (accumulator.write config kind (· ++ text)) := by cases kind <;> rfl
      rcases holds.write current piece (· ++ text) false with ⟨written, usage⟩
      exact ⟨_, consumed, written, by cases kind <;> exact usage⟩
  | @completed kind requestId text position current piece continues =>
      have consumed : accumulator.consume config loads (.semantic (kind.completed requestId text)) =
          .ok ((accumulator.write config kind fun _ => text).setCurrent none kind) := by
        cases kind <;> rfl
      rcases holds.write current piece (fun _ => text) true with ⟨written, usage⟩
      refine ⟨_, consumed, ⟨?_, ?_, ?_, written.reads, ?_⟩, ?_⟩
      · rw [AnthropicMessageAccumulator.content_setCurrent, written.content]
        rfl
      · rw [AnthropicMessageAccumulator.current_setCurrent, written.current, Output.point_openAt]
      · rw [AnthropicMessageAccumulator.toolBlocks_setCurrent]
        exact written.calls
      · rw [AnthropicMessageAccumulator.error_setCurrent]
        exact written.unfailed
      · rw [AnthropicMessageAccumulator.usage_setCurrent]
        cases kind <;> exact usage
  | callStarted requestId callId name index callIdNonBlank nameNonBlank starts =>
      refine ⟨_, rfl, ⟨?_, holds.current, ?_, ?_, holds.unfailed⟩, rfl⟩
      · simp [AnthropicMessageAccumulator.appendBlock, holds.content, blockOf]
      · apply holds.calls_append
        · intro position piece other there indexed
          rw [Dict.get?_set, if_neg]
          rintro rfl
          exact starts.1 (List.mem_filterMap.mpr ⟨piece, List.mem_of_getElem? there, indexed⟩)
        · rintro _ ⟨⟩
          rw [Dict.get?_set, if_pos rfl, holds.length]
      · simp only [Output.append_pieces, List.mem_append, List.mem_singleton]
        rintro piece (old | rfl)
        · exact holds.reads piece old
        · exact trivial
  | @callDelta requestId callId name text index position before piece continues =>
      refine ⟨_, rfl, ⟨?_, holds.current, holds.calls_set piece rfl, holds.reads_set trivial,
        holds.unfailed⟩, rfl⟩
      have same : blockOf config loads (.call callId name index before false) =
          blockOf config loads (.call callId name index (before ++ text) false) := rfl
      rw [holds.content, Output.set_pieces, set_map piece same]
  | @callCompleted requestId call position before piece completes =>
      rcases completes with ⟨rfl, ⟨entries, reads⟩, -⟩
      have placed : accumulator.toolBlocks.get? call.index = some position :=
        holds.calls position _ call.index piece rfl
      refine ⟨accumulator.modifyBlock position (ContentBlock.setInput entries), ?_,
        ⟨?_, holds.current, holds.calls_set piece rfl, holds.reads_set ⟨entries, reads⟩,
          holds.unfailed⟩, rfl⟩
      · rw [AnthropicMessageAccumulator.consume, reads]
        simp only [AnthropicMessageAccumulator.completeCall, placed]
      · rw [AnthropicMessageAccumulator.modifyBlock, holds.content, Output.set_pieces]
        apply modify_map piece
        simp [blockOf, ContentBlock.setInput, argumentsOf, reads]
  | usageUpdated requestId usage =>
      exact ⟨_, rfl, ⟨holds.content, holds.current, holds.calls, holds.reads, holds.unfailed⟩, rfl⟩
  | timingUpdated requestId timing => exact ⟨_, rfl, holds, rfl⟩

/-- A whole run is accumulated. -/
theorem run {events : List ServingEvent} (run : Run (messageRules loads) events output) :
    ∃ after, AnthropicMessageAccumulator.new.consumeAll config loads events = .ok after ∧
      Accumulates config loads after output ∧ after.usage = events.foldl usageAfter none := by
  induction run with
  | start => exact ⟨_, rfl, new, rfl⟩
  | @step events output next event run step induction =>
      rcases induction with ⟨middle, consumed, holds, usage⟩
      rcases holds.step step with ⟨after, consumes, holdsAfter, usageThen⟩
      refine ⟨after, ?_, holdsAfter, ?_⟩
      · rw [AnthropicMessageAccumulator.consumeAll] at consumed ⊢
        simp only [List.foldlM_append, consumed, List.foldlM_cons, List.foldlM_nil, bind_pure]
        exact consumes
      · rw [List.foldl_append, ← usage]
        exact usageThen

end Accumulates

/-! ## Blocks of a stream -/

section Blocks

variable (config) (index : Nat)

def openingOf : Piece → ContentBlock
  | .segment kind _ _ => AnthropicMessageStreamSerializer.openingBlock kind
  | .call callId name _ _ _ => .toolUse callId name []

def deltaOf : Piece → PyStr → BlockDelta
  | .segment kind _ _ => AnthropicMessageStreamSerializer.textDelta kind
  | .call _ _ _ _ _ => .inputJson

def closingOf (piece : Piece) : List StreamEvent :=
  match piece with
  | .segment kind _ true =>
      (AnthropicMessageStreamSerializer.closingDeltas config kind).map (.blockDelta index) ++
        [.blockStop index]
  | .call _ _ _ _ true => [.blockStop index]
  | _ => []

def BlockEvents (piece : Piece) (events : List StreamEvent) : Prop :=
  ∃ deltas : List PyStr, deltas.flatten = shownText config piece ∧
    events = .blockStart index (openingOf piece) ::
      (deltas.map fun text => .blockDelta index (deltaOf piece text)) ++
      closingOf config index piece

def Shown (pieces : List Piece) (events : List StreamEvent) : Prop :=
  ∃ blocks : List (List StreamEvent), blocks.length = pieces.length ∧
    (∀ index piece block, pieces[index]? = some piece → blocks[index]? = some block →
      BlockEvents config index piece block) ∧
    events = blocks.flatten

variable {config index}

theorem BlockEvents.opened {piece : Piece} (text : piece.text = []) (running : piece.done = false) :
    BlockEvents config index piece [.blockStart index (openingOf piece)] := by
  refine ⟨[], ?_, ?_⟩
  · cases piece with
    | segment kind before done =>
        cases text
        simp [shownText]
    | call callId name index arguments done =>
        cases text
        rfl
  · cases piece with
    | segment kind before done =>
        cases running
        rfl
    | call callId name index arguments done =>
        cases running
        rfl

theorem BlockEvents.segmentDelta {kind : SegmentKind} {before : PyStr} {old : List StreamEvent}
    (events : BlockEvents config index (.segment kind before false) old) (text : PyStr) :
    BlockEvents config index (.segment kind (before ++ text) false)
      (old ++ if config.hides kind then []
        else [.blockDelta index (AnthropicMessageStreamSerializer.textDelta kind text)]) := by
  rcases events with ⟨deltas, said, rfl⟩
  simp only [shownText] at said
  by_cases hidden : config.hides kind = true
  · refine ⟨deltas, by simp [shownText, hidden] at said ⊢; exact said, ?_⟩
    simp [hidden, closingOf, openingOf, deltaOf]
  · refine ⟨deltas ++ [text], by simp [shownText, hidden] at said ⊢; exact said, ?_⟩
    simp [hidden, closingOf, openingOf, deltaOf]

theorem BlockEvents.segmentDone {kind : SegmentKind} {text : PyStr} {old : List StreamEvent}
    (events : BlockEvents config index (.segment kind text false) old) :
    BlockEvents config index (.segment kind text true)
      (old ++ closingOf config index (.segment kind text true)) := by
  rcases events with ⟨deltas, said, rfl⟩
  exact ⟨deltas, said, by simp [closingOf, openingOf, deltaOf]⟩

theorem BlockEvents.callDelta {callId name before : PyStr} {number : Nat} {old : List StreamEvent}
    (events : BlockEvents config index (.call callId name number before false) old) (text : PyStr) :
    BlockEvents config index (.call callId name number (before ++ text) false)
      (old ++ [.blockDelta index (.inputJson text)]) := by
  rcases events with ⟨deltas, said, rfl⟩
  simp only [shownText] at said
  exact ⟨deltas ++ [text], by simp [shownText, said], by simp [closingOf, openingOf, deltaOf]⟩

theorem BlockEvents.callDone {callId name arguments : PyStr} {number : Nat}
    {old : List StreamEvent}
    (events : BlockEvents config index (.call callId name number arguments false) old) :
    BlockEvents config index (.call callId name number arguments true)
      (old ++ [.blockStop index]) := by
  rcases events with ⟨deltas, said, rfl⟩
  exact ⟨deltas, said, by simp [closingOf, openingOf, deltaOf]⟩

theorem Shown.nil : Shown config [] [] := ⟨[], rfl, by simp, rfl⟩

theorem Shown.snoc {pieces : List Piece} {events new : List StreamEvent} {piece : Piece}
    (shown : Shown config pieces events) (block : BlockEvents config pieces.length piece new) :
    Shown config (pieces ++ [piece]) (events ++ new) := by
  rcases shown with ⟨blocks, size, old, rfl⟩
  refine ⟨blocks ++ [new], by simp [size], ?_, by simp⟩
  intro index other found foundPiece foundBlock
  rcases Nat.lt_trichotomy index pieces.length with inside | rfl | outside
  · rw [List.getElem?_append_left inside] at foundPiece
    rw [List.getElem?_append_left (size ▸ inside)] at foundBlock
    exact old index other found foundPiece foundBlock
  · rw [List.getElem?_concat_length] at foundPiece
    rw [← size, List.getElem?_concat_length] at foundBlock
    cases foundPiece
    cases foundBlock
    exact block
  · rw [List.getElem?_eq_none (by simp; omega)] at foundPiece
    cases foundPiece

/-- More events of the last block. -/
theorem Shown.grow {front : List Piece} {last next : Piece} {events new : List StreamEvent}
    (shown : Shown config (front ++ [last]) events)
    (grows : ∀ old, BlockEvents config front.length last old →
      BlockEvents config front.length next (old ++ new)) :
    Shown config (front ++ [next]) (events ++ new) := by
  rcases shown with ⟨blocks, size, old, rfl⟩
  rcases List.eq_nil_or_concat blocks with rfl | ⟨blocks, block, rfl⟩
  · simp at size
  · rw [List.concat_eq_append] at size old ⊢
    have sameSize : blocks.length = front.length := by simpa using size
    have front' : Shown config front blocks.flatten := by
      refine ⟨blocks, sameSize, ?_, rfl⟩
      intro index piece found foundPiece foundBlock
      apply old index piece found
      · rw [List.getElem?_append_left (List.getElem?_eq_some_iff.mp foundPiece).choose]
        exact foundPiece
      · rw [List.getElem?_append_left (List.getElem?_eq_some_iff.mp foundBlock).choose]
        exact foundBlock
    have there : BlockEvents config front.length last block := by
      apply old front.length last block
      · exact List.getElem?_concat_length
      · rw [← sameSize, List.getElem?_concat_length]
    have whole := front'.snoc (grows block there)
    simpa using whole

end Blocks

end ExQServe.Anthropic
