import ExQServe.Agent.JsonLoads
import ExQServe.Protocol.AnthropicMessages

/-! # The blocks of an Anthropic stream

While the block of a call is open, everything that does not belong to it is deferred, and it
is projected in the same order once the call is completed. So what waits is always the events
of the pieces behind the open call. -/

namespace ExQServe.Anthropic

open ExQServe.Model ExQServe.Canonical AnthropicMessageStreamSerializer

variable {config : MessageConfig} {loads : PyStr → Option JsonValue}
  {serializer : AnthropicMessageStreamSerializer} {pieces front : List Piece}
  {events emitted : List StreamEvent}

/-! ## What is projected -/

/-- The pieces are shown, and the next block may be started. -/
structure Ready (config : MessageConfig) (serializer : AnthropicMessageStreamSerializer)
    (pieces : List Piece) (events : List StreamEvent) : Prop where
  shown : Shown config pieces events
  size : serializer.nextBlockIndex = pieces.length
  running : serializer.terminal = false
  free : serializer.pendingToolIndex = none

structure InSegment (config : MessageConfig) (serializer : AnthropicMessageStreamSerializer)
    (front : List Piece) (kind : SegmentKind) (text : PyStr) (done : Bool)
    (events : List StreamEvent) : Prop where
  ready : Ready config serializer (front ++ [.segment kind text done]) events
  block : serializer.block kind = some front.length

/-- The last block that was started is that of a call, which is open. -/
structure InCall (config : MessageConfig) (serializer : AnthropicMessageStreamSerializer)
    (front : List Piece) (callId name : PyStr) (index : Nat) (arguments : PyStr)
    (events : List StreamEvent) : Prop where
  shown : Shown config (front ++ [.call callId name index arguments false]) events
  size : serializer.nextBlockIndex = front.length + 1
  running : serializer.terminal = false
  pending : serializer.pendingToolIndex = some index
  block : serializer.toolBlocks.get? index = some front.length

structure Carries (before after : AnthropicMessageStreamSerializer) : Prop where
  usage : after.usage = before.usage
  deferred : after.deferredContentEvents = before.deferredContentEvents

theorem Carries.refl (serializer : AnthropicMessageStreamSerializer) :
    Carries serializer serializer := ⟨rfl, rfl⟩

theorem Carries.trans {first second third : AnthropicMessageStreamSerializer}
    (early : Carries first second) (late : Carries second third) : Carries first third :=
  ⟨late.usage.trans early.usage, late.deferred.trans early.deferred⟩

theorem project_running {event : ServingEvent} (running : serializer.terminal = false) :
    serializer.project config event = serializer.projectOpen config event := by
  simp [project, running]

theorem project_started (ready : Ready config serializer pieces events) (kind : SegmentKind)
    (requestId : PyStr) : ∃ after emitted,
      serializer.project config (.semantic (kind.started requestId)) = some (after, emitted) ∧
      InSegment config after pieces kind [] false (events ++ emitted) ∧
      Carries serializer after := by
  have projected : serializer.projectOpen config (.semantic (kind.started requestId)) =
      some (serializer.startSegment kind) := by cases kind <;> rfl
  refine ⟨_, _, (project_running ready.running).trans projected, ⟨⟨?_, ?_, ?_, ?_⟩, ?_⟩, ?_⟩
  · have block : BlockEvents config pieces.length (.segment kind [] false)
        [.blockStart pieces.length (openingBlock kind)] := .opened rfl rfl
    rw [← ready.size] at block
    cases kind <;> exact ready.shown.snoc (ready.size ▸ block)
  · cases kind <;> simp [setBlock, ready.size]
  · cases kind <;> exact ready.running
  · cases kind <;> exact ready.free
  · cases kind <;> simp [setBlock, AnthropicMessageStreamSerializer.block, ready.size]
  · cases kind <;> exact ⟨rfl, rfl⟩

theorem project_delta {kind : SegmentKind} {before : PyStr}
    (inSegment : InSegment config serializer front kind before false events)
    (requestId text : PyStr) :
    ∃ after emitted,
      serializer.project config (.semantic (kind.delta requestId text)) = some (after, emitted) ∧
      InSegment config after front kind (before ++ text) false (events ++ emitted) ∧
      Carries serializer after := by
  have ready := inSegment.ready
  have projected : serializer.projectOpen config (.semantic (kind.delta requestId text)) =
      some (serializer.segmentDelta config kind text) := by cases kind <;> rfl
  rw [segmentDelta, ensureBlock, inSegment.block] at projected
  refine ⟨_, _, (project_running ready.running).trans projected,
    ⟨⟨?_, ?_, ready.running, ready.free⟩, inSegment.block⟩, .refl _⟩
  · exact ready.shown.grow fun old block => block.segmentDelta text
  · rw [ready.size]
    simp

theorem project_completed {kind : SegmentKind} {before : PyStr}
    (inSegment : InSegment config serializer front kind before false events)
    (requestId text : PyStr) :
    ∃ after emitted,
      serializer.project config (.semantic (kind.completed requestId text)) =
        some (after, emitted) ∧
      InSegment config after front kind before true (events ++ emitted) ∧
      Carries serializer after := by
  have ready := inSegment.ready
  have projected : serializer.projectOpen config (.semantic (kind.completed requestId text)) =
      some (serializer.segmentCompleted config kind) := by cases kind <;> rfl
  rw [segmentCompleted, ensureBlock, inSegment.block] at projected
  refine ⟨_, _, (project_running ready.running).trans projected,
    ⟨⟨?_, ?_, ready.running, ready.free⟩, inSegment.block⟩, .refl _⟩
  · exact ready.shown.grow fun old block => block.segmentDone
  · rw [ready.size]
    simp

theorem project_callStarted (ready : Ready config serializer pieces events)
    (requestId callId name : PyStr) (index : Nat) : ∃ after emitted,
      serializer.project config (.semantic (.toolCallStarted requestId callId name index)) =
        some (after, emitted) ∧
      InCall config after pieces callId name index [] (events ++ emitted) ∧
      Carries serializer after := by
  refine ⟨_, _, (project_running ready.running).trans rfl, ⟨?_, ?_, ready.running, rfl, ?_⟩,
    ⟨rfl, rfl⟩⟩
  · rw [ready.size]
    exact ready.shown.snoc (.opened rfl rfl)
  · simp [ready.size]
  · simp [Dict.get?_set, ready.size]

theorem project_callDelta {callId name before : PyStr} {index : Nat}
    (inCall : InCall config serializer front callId name index before events)
    (requestId otherId text : PyStr) :
    serializer.project config (.semantic (.toolCallArgumentsDelta requestId otherId text index)) =
        some (serializer, [.blockDelta front.length (.inputJson text)]) ∧
      InCall config serializer front callId name index (before ++ text)
        (events ++ [.blockDelta front.length (.inputJson text)]) := by
  constructor
  · rw [project_running inCall.running, projectOpen, inCall.block]
  · exact ⟨inCall.shown.grow fun old block => block.callDelta text, inCall.size, inCall.running,
      inCall.pending, inCall.block⟩

theorem project_callCompleted {callId name arguments : PyStr} {index : Nat}
    (inCall : InCall config serializer front callId name index arguments events)
    (requestId : PyStr) {call : ToolCallItem} (same : call.index = index) : ∃ after,
      serializer.project config (.semantic (.toolCallCompleted requestId call)) =
        some (after, [.blockStop front.length]) ∧
      Ready config after (front ++ [.call callId name index arguments true])
        (events ++ [.blockStop front.length]) ∧
      Carries serializer after := by
  subst same
  refine ⟨{ serializer with
    toolBlocks := serializer.toolBlocks.erase call.index
    pendingToolIndex := serializer.pendingToolIndex.filter (· ≠ call.index) }, ?_,
    ⟨inCall.shown.grow fun old block => block.callDone, ?_, inCall.running, ?_⟩, ⟨rfl, rfl⟩⟩
  · rw [project_running inCall.running, projectOpen, inCall.block]
  · simp [inCall.size]
  · simp [inCall.pending]

/-! ## What waits -/

/-- The events of a piece so far, where a call is not completed. -/
inductive Says : Piece → List ServingEvent → Prop
  | started (kind : SegmentKind) (requestId : PyStr) :
      Says (.segment kind [] false) [.semantic (kind.started requestId)]
  | delta {kind : SegmentKind} {before : PyStr} {events : List ServingEvent}
      (spoken : Says (.segment kind before false) events) (requestId text : PyStr) :
      Says (.segment kind (before ++ text) false)
        (events ++ [.semantic (kind.delta requestId text)])
  | completed {kind : SegmentKind} {before : PyStr} {events : List ServingEvent}
      (spoken : Says (.segment kind before false) events) (requestId text : PyStr) :
      Says (.segment kind before true) (events ++ [.semantic (kind.completed requestId text)])
  | callStarted (requestId callId name : PyStr) (index : Nat) :
      Says (.call callId name index [] false)
        [.semantic (.toolCallStarted requestId callId name index)]
  | callDelta {callId name : PyStr} {index : Nat} {before : PyStr} {events : List ServingEvent}
      (spoken : Says (.call callId name index before false) events)
      (requestId otherId text : PyStr) :
      Says (.call callId name index (before ++ text) false)
        (events ++ [.semantic (.toolCallArgumentsDelta requestId otherId text index)])

def Reaches (config : MessageConfig) (serializer : AnthropicMessageStreamSerializer)
    (front : List Piece) (events : List StreamEvent) : Piece → Prop
  | .segment kind text done => InSegment config serializer front kind text done events
  | .call callId name index arguments done =>
      done = false ∧ InCall config serializer front callId name index arguments events

theorem canProject_free (free : serializer.pendingToolIndex = none) (event : ServingEvent) :
    serializer.canProject event = true := by
  rw [canProject, free]

theorem drain_cons {event : ServingEvent} {queue : List ServingEvent}
    {next : AnthropicMessageStreamSerializer} {emitted : List StreamEvent}
    (running : serializer.terminal = false) (can : serializer.canProject event = true)
    (projected : serializer.project config event = some (next, emitted)) :
    serializer.drain config (event :: queue) =
      (next.drain config queue).map fun last => (last.1, emitted ++ last.2) := by
  rw [drain, if_neg (by simp [running, can]), projected]
  simp only [Option.bind_eq_bind, Option.bind_some]
  cases next.drain config queue <;> rfl

/-- The events of a piece are projected when the block before it is stopped. -/
theorem drain_piece {piece : Piece} {part : List ServingEvent} (heard : Says piece part)
    (ready : Ready config serializer pieces events) : ∃ after emitted,
      (∀ queue, serializer.drain config (part ++ queue) =
        (after.drain config queue).map fun last => (last.1, emitted ++ last.2)) ∧
      Reaches config after pieces (events ++ emitted) piece ∧ Carries serializer after := by
  -- One more event behind those that are projected already.
  have further {part : List ServingEvent} {event : ServingEvent}
      {middle after : AnthropicMessageStreamSerializer} {first second : List StreamEvent}
      (before : ∀ queue, serializer.drain config (part ++ queue) =
        (middle.drain config queue).map fun last => (last.1, first ++ last.2))
      (running : middle.terminal = false) (can : middle.canProject event = true)
      (projected : middle.project config event = some (after, second)) (queue : List ServingEvent) :
      serializer.drain config (part ++ [event] ++ queue) =
        (after.drain config queue).map fun last => (last.1, first ++ second ++ last.2) := by
    rw [List.append_assoc, List.singleton_append, before, drain_cons running can projected,
      Option.map_map]
    congr 1
    funext last
    simp
  induction heard with
  | started kind requestId =>
      rcases project_started ready kind requestId with
        ⟨after, emitted, projected, inSegment, carries⟩
      exact ⟨after, emitted, fun queue =>
        drain_cons ready.running (canProject_free ready.free _) projected, inSegment, carries⟩
  | @delta kind before part _ requestId text induction =>
      rcases induction with ⟨middle, first, drained, inSegment, carries⟩
      rcases project_delta inSegment requestId text with
        ⟨after, second, projected, inSegmentThen, carriesThen⟩
      exact ⟨after, first ++ second,
        further drained inSegment.ready.running (canProject_free inSegment.ready.free _) projected,
        by rw [← List.append_assoc]; exact inSegmentThen, carries.trans carriesThen⟩
  | @completed kind before part _ requestId text induction =>
      rcases induction with ⟨middle, first, drained, inSegment, carries⟩
      rcases project_completed inSegment requestId text with
        ⟨after, second, projected, inSegmentThen, carriesThen⟩
      exact ⟨after, first ++ second,
        further drained inSegment.ready.running (canProject_free inSegment.ready.free _) projected,
        by rw [← List.append_assoc]; exact inSegmentThen, carries.trans carriesThen⟩
  | callStarted requestId callId name index =>
      rcases project_callStarted ready requestId callId name index with
        ⟨after, emitted, projected, inCall, carries⟩
      exact ⟨after, emitted, fun queue =>
        drain_cons ready.running (canProject_free ready.free _) projected, ⟨rfl, inCall⟩, carries⟩
  | @callDelta callId name index before part _ requestId otherId text induction =>
      rcases induction with ⟨middle, first, drained, ⟨-, inCall⟩, carries⟩
      rcases project_callDelta inCall requestId otherId text with ⟨projected, inCallThen⟩
      have can : middle.canProject
          (.semantic (.toolCallArgumentsDelta requestId otherId text index)) = true := by
        rw [canProject, inCall.pending]
        simp
      exact ⟨middle, first ++ [.blockDelta pieces.length (.inputJson text)],
        further drained inCall.running can projected,
        by rw [← List.append_assoc]; exact ⟨rfl, inCallThen⟩, carries⟩

/-- The first event of a piece waits for the call that is open. -/
theorem Says.head {piece : Piece} {part : List ServingEvent} (heard : Says piece part) :
    ∃ first rest, part = first :: rest ∧
      ∀ {serializer : AnthropicMessageStreamSerializer} {index : Nat},
        serializer.pendingToolIndex = some index → serializer.canProject first = false := by
  have grows {part : List ServingEvent} (event : ServingEvent)
      (old : ∃ first rest, part = first :: rest ∧
        ∀ {serializer : AnthropicMessageStreamSerializer} {index : Nat},
          serializer.pendingToolIndex = some index → serializer.canProject first = false) :
      ∃ first rest, part ++ [event] = first :: rest ∧
        ∀ {serializer : AnthropicMessageStreamSerializer} {index : Nat},
          serializer.pendingToolIndex = some index → serializer.canProject first = false := by
    rcases old with ⟨first, rest, rfl, waits⟩
    exact ⟨first, rest ++ [event], rfl, waits⟩
  induction heard with
  | started kind requestId =>
      refine ⟨_, [], rfl, ?_⟩
      intro serializer index pending
      cases kind <;> simp [canProject, pending, SegmentKind.started]
  | delta _ requestId text induction => exact grows _ induction
  | completed _ requestId text induction => exact grows _ induction
  | callStarted requestId callId name index =>
      refine ⟨_, [], rfl, ?_⟩
      intro serializer index pending
      simp [canProject, pending]
  | callDelta _ requestId otherId text induction => exact grows _ induction

/-- Behind an open call nothing is projected. -/
theorem drain_waits {parts : List (List ServingEvent)} {index : Nat}
    (heard : List.Forall₂ Says pieces parts) (pending : serializer.pendingToolIndex = some index) :
    serializer.drain config parts.flatten =
      some ({ serializer with deferredContentEvents := parts.flatten }, []) := by
  cases heard with
  | nil => rfl
  | cons first rest =>
      rcases first.head with ⟨event, more, rfl, waits⟩
      rw [List.flatten_cons, List.cons_append, drain, waits pending]
      simp

theorem drain_waiting {parts : List (List ServingEvent)} {index : Nat}
    (heard : List.Forall₂ Says pieces parts) (pending : serializer.pendingToolIndex = some index)
    (waiting : serializer.deferredContentEvents = parts.flatten) :
    serializer.drain config serializer.deferredContentEvents = some (serializer, []) := by
  rw [waiting, drain_waits heard pending, ← waiting]

/-! ## The state of a stream -/

/-- All pieces are shown, or those up to an open call, and the events of the others wait. -/
inductive Standing (config : MessageConfig) (serializer : AnthropicMessageStreamSerializer)
    (pieces : List Piece) (events : List StreamEvent) : Prop
  | idle (ready : Ready config serializer pieces events)
      (nothing : serializer.deferredContentEvents = [])
      (settled : ∀ piece ∈ pieces, piece.callId? ≠ none → piece.done = true)
      (block : ∀ front kind text, pieces = front ++ [.segment kind text false] →
        serializer.block kind = some front.length)
  | busy {front rest : List Piece} {callId name : PyStr} {index : Nat} {arguments : PyStr}
      {parts : List (List ServingEvent)}
      (split : pieces = front ++ .call callId name index arguments false :: rest)
      (inCall : InCall config serializer front callId name index arguments events)
      (settled : ∀ piece ∈ front, piece.callId? ≠ none → piece.done = true)
      (heard : List.Forall₂ Says rest parts)
      (waiting : serializer.deferredContentEvents = parts.flatten)

theorem settled_segment {kind : SegmentKind} {text : PyStr} {done : Bool}
    (settled : ∀ piece ∈ front, piece.callId? ≠ none → piece.done = true) :
    ∀ piece ∈ front ++ [.segment kind text done], piece.callId? ≠ none → piece.done = true := by
  intro piece member isCall
  rcases List.mem_append.mp member with old | new
  · exact settled piece old isCall
  · rw [List.mem_singleton.mp new] at isCall
    exact absurd rfl isCall

/-- The block of the segment at the end is the one that was started last. -/
theorem InSegment.last {kind : SegmentKind} {text : PyStr} {done : Bool}
    (inSegment : InSegment config serializer front kind text done events) (other : List Piece)
    (otherKind : SegmentKind) (said : PyStr)
    (same : front ++ [.segment kind text done] = other ++ [.segment otherKind said false]) :
    serializer.block otherKind = some other.length := by
  rcases List.append_inj' same rfl with ⟨sameFront, sameLast⟩
  cases sameLast
  rw [← sameFront]
  exact inSegment.block

/-- What waits is projected up to the next call. -/
theorem drain_standing {rest : List Piece} {parts : List (List ServingEvent)}
    (heard : List.Forall₂ Says rest parts) (ready : Ready config serializer pieces events)
    (settled : ∀ piece ∈ pieces, piece.callId? ≠ none → piece.done = true)
    (block : rest = [] → ∀ front kind text, pieces = front ++ [.segment kind text false] →
      serializer.block kind = some front.length) : ∃ after emitted,
      serializer.drain config parts.flatten = some (after, emitted) ∧
      Standing config after (pieces ++ rest) (events ++ emitted) ∧
      after.usage = serializer.usage := by
  induction heard generalizing serializer pieces events with
  | nil =>
      refine ⟨{ serializer with deferredContentEvents := [] }, [], rfl, ?_, rfl⟩
      rw [List.append_nil, List.append_nil]
      exact .idle ⟨ready.shown, ready.size, ready.running, ready.free⟩ rfl settled (block rfl)
  | @cons piece part rest parts spoken heard induction =>
      rcases drain_piece spoken ready with ⟨middle, first, drained, reaches, carries⟩
      rw [List.flatten_cons, drained]
      cases piece with
      | segment kind text done =>
          have inSegment : InSegment config middle pieces kind text done (events ++ first) :=
            reaches
          rcases induction inSegment.ready (settled_segment settled) fun _ => inSegment.last with
            ⟨after, second, drainedRest, standing, usage⟩
          refine ⟨after, first ++ second, by rw [drainedRest]; rfl, ?_, usage.trans carries.usage⟩
          simpa using standing
      | call callId name index arguments done =>
          rcases reaches with ⟨rfl, inCall⟩
          refine ⟨{ middle with deferredContentEvents := parts.flatten }, first,
            by rw [drain_waits heard inCall.pending]; simp, ?_, carries.usage⟩
          exact .busy rfl ⟨inCall.shown, inCall.size, inCall.running, inCall.pending, inCall.block⟩
            settled heard rfl

/-! ## One event -/

/-- The event is taken: what is shown afterwards stands for the pieces. -/
def Advances (config : MessageConfig) (serializer : AnthropicMessageStreamSerializer)
    (event : ServingEvent) (pieces : List Piece) (events : List StreamEvent) : Prop :=
  ∃ after emitted, serializer.feed config event = some (after, emitted) ∧
    Standing config after pieces (events ++ emitted) ∧
    after.usage = usageAfter serializer.usage event

theorem Standing.running (standing : Standing config serializer pieces events) :
    serializer.terminal = false := by
  cases standing with
  | idle ready nothing settled block => exact ready.running
  | busy split inCall settled heard waiting => exact inCall.running

/-- A semantic event that cannot be projected yet waits behind the others. -/
theorem feed_deferred {event : GenerationEvent} (running : serializer.terminal = false)
    (cannot : serializer.canProject (.semantic event) = false) :
    serializer.feed config (.semantic event) =
      some ({ serializer with
        deferredContentEvents := serializer.deferredContentEvents ++ [.semantic event] }, []) := by
  simp [feed, running, cannot, isContentOrSuccessTerminal]

theorem feed_projected {event : GenerationEvent} {next last : AnthropicMessageStreamSerializer}
    {first second : List StreamEvent} (running : serializer.terminal = false)
    (can : serializer.canProject (.semantic event) = true)
    (projected : serializer.project config (.semantic event) = some (next, first))
    (drained : next.drain config next.deferredContentEvents = some (last, second)) :
    serializer.feed config (.semantic event) = some (last, first ++ second) := by
  simp [feed, running, can, advance, projected, drained]

/-- An event of a segment is projected where nothing waits. -/
theorem feed_segment {event : GenerationEvent} {after : AnthropicMessageStreamSerializer}
    {kind : SegmentKind} {text : PyStr} {done : Bool} (running : serializer.terminal = false)
    (free : serializer.pendingToolIndex = none) (nothing : serializer.deferredContentEvents = [])
    (settled : ∀ piece ∈ front, piece.callId? ≠ none → piece.done = true)
    (projected : serializer.project config (.semantic event) = some (after, emitted))
    (inSegment : InSegment config after front kind text done (events ++ emitted))
    (carries : Carries serializer after) :
    Advances config serializer (.semantic event) (front ++ [.segment kind text done]) events := by
  have drained : after.drain config after.deferredContentEvents =
      some ({ after with deferredContentEvents := [] }, []) := by
    rw [carries.deferred, nothing, drain]
  refine ⟨_, _, feed_projected running (canProject_free free _) projected drained, ?_,
    carries.usage⟩
  rw [List.append_nil]
  have ready := inSegment.ready
  exact .idle ⟨ready.shown, ready.size, ready.running, ready.free⟩ rfl (settled_segment settled)
    inSegment.last

/-- While a call is open, an event of the pieces behind it waits with the others. -/
theorem feed_behind {front more : List Piece} {callId name : PyStr} {index : Nat}
    {arguments : PyStr} {parts parts' : List (List ServingEvent)} {event : GenerationEvent}
    (inCall : InCall config serializer front callId name index arguments events)
    (settled : ∀ piece ∈ front, piece.callId? ≠ none → piece.done = true)
    (waiting : serializer.deferredContentEvents = parts.flatten)
    (cannot : serializer.canProject (.semantic event) = false)
    (heard : List.Forall₂ Says more parts')
    (grown : parts.flatten ++ [.semantic event] = parts'.flatten) :
    Advances config serializer (.semantic event)
      (front ++ .call callId name index arguments false :: more) events := by
  refine ⟨_, _, feed_deferred inCall.running cannot, ?_, rfl⟩
  rw [List.append_nil]
  exact .busy rfl ⟨inCall.shown, inCall.size, inCall.running, inCall.pending, inCall.block⟩ settled
    heard (by rw [waiting, grown])

/-- The last piece that waits has heard one more event. -/
theorem heard_more {rest : List Piece} {last next : Piece} {parts : List (List ServingEvent)}
    {event : ServingEvent} (heard : List.Forall₂ Says (rest ++ [last]) parts)
    (grows : ∀ part, Says last part → Says next (part ++ [event])) : ∃ parts',
      List.Forall₂ Says (rest ++ [next]) parts' ∧ parts.flatten ++ [event] = parts'.flatten := by
  induction rest generalizing parts with
  | nil =>
      cases heard with
      | @cons _ part _ _ first none =>
          cases none
          exact ⟨[part ++ [event]], .cons (grows part first) .nil, by simp⟩
  | cons piece rest induction =>
      cases heard with
      | @cons _ part _ _ first heard =>
          rcases induction heard with ⟨parts', heardThen, grown⟩
          exact ⟨part :: parts', .cons first heardThen, by simp [← grown]⟩

theorem heard_new {rest : List Piece} {next : Piece} {parts : List (List ServingEvent)}
    {event : ServingEvent} (heard : List.Forall₂ Says rest parts) (first : Says next [event]) :
    List.Forall₂ Says (rest ++ [next]) (parts ++ [[event]]) ∧
      parts.flatten ++ [event] = (parts ++ [[event]]).flatten :=
  ⟨List.rel_append heard (.cons first .nil), by simp⟩

/-- The list is split at its last position. -/
theorem split_last {position : Nat} {piece : Piece} (found : pieces[position]? = some piece)
    (last : position + 1 = pieces.length) : ∃ front, pieces = front ++ [piece] ∧
      position = front.length := by
  rcases List.eq_nil_or_concat pieces with rfl | ⟨front, other, rfl⟩
  · cases found
  · rw [List.concat_eq_append] at found last ⊢
    have here : position = front.length := by simpa using last
    subst here
    rw [List.getElem?_concat_length] at found
    cases found
    exact ⟨front, rfl, rfl⟩

/-- Behind an open call, the last piece is the call or one of those that wait. -/
theorem split_behind {front rest before : List Piece} {first last : Piece}
    (same : front ++ first :: rest = before ++ [last]) :
    rest = [] ∧ front = before ∧ first = last ∨
      ∃ between, rest = between ++ [last] ∧ before = front ++ first :: between := by
  rcases List.eq_nil_or_concat rest with rfl | ⟨between, other, rfl⟩
  · rcases List.append_inj' same rfl with ⟨sameFront, sameLast⟩
    exact .inl ⟨rfl, sameFront, (List.cons.inj sameLast).1⟩
  · rw [List.concat_eq_append, ← List.cons_append, ← List.append_assoc] at same
    rcases List.append_inj' same rfl with ⟨sameFront, sameLast⟩
    rw [List.concat_eq_append, (List.cons.inj sameLast).1]
    exact .inr ⟨between, rfl, sameFront.symm⟩

theorem set_behind (front rest : List Piece) (old new : Piece) :
    (front ++ old :: rest).set front.length new = front ++ new :: rest := by
  simp

/-- A call behind another one has an index of its own. -/
theorem index_apart {front between : List Piece} {callId name otherId otherName : PyStr}
    {index otherIndex : Nat} {arguments said : PyStr} {done : Bool}
    (distinct : List.Nodup (((front ++ Piece.call callId name index arguments done :: between) ++
      [Piece.call otherId otherName otherIndex said false]).filterMap Piece.index?)) :
    otherIndex ≠ index := by
  rintro rfl
  simp [Piece.index?, List.filterMap_append, List.nodup_append] at distinct

section OpenCall

variable {rest : List Piece} {callId name : PyStr} {index : Nat} {arguments : PyStr}
  {parts : List (List ServingEvent)}

/-- An event that says the first thing of a piece waits behind the open call. -/
theorem InCall.waits (inCall : InCall config serializer front callId name index arguments events)
    {event : ServingEvent} {piece : Piece} (spoken : Says piece [event]) :
    serializer.canProject event = false := by
  rcases spoken.head with ⟨first, more, same, waits⟩
  cases same
  exact waits inCall.pending

theorem feed_callDelta
    (inCall : InCall config serializer front callId name index arguments events)
    (settled : ∀ piece ∈ front, piece.callId? ≠ none → piece.done = true)
    (heard : List.Forall₂ Says rest parts)
    (waiting : serializer.deferredContentEvents = parts.flatten) (requestId text : PyStr) :
    Advances config serializer (.semantic (.toolCallArgumentsDelta requestId callId text index))
      (front ++ .call callId name index (arguments ++ text) false :: rest) events := by
  rcases project_callDelta inCall requestId callId text with ⟨projected, inCallThen⟩
  have can : serializer.canProject
      (.semantic (.toolCallArgumentsDelta requestId callId text index)) = true := by
    simp [canProject, inCall.pending]
  refine ⟨_, _, feed_projected inCall.running can projected
    (drain_waiting heard inCall.pending waiting), ?_, rfl⟩
  rw [List.append_nil]
  exact .busy rfl inCallThen settled heard waiting

/-- Once the call is completed, what waited is projected up to the next call. -/
theorem feed_callCompleted {call : ToolCallItem}
    (inCall : InCall config serializer front call.callId call.name call.index call.argumentsJson
      events)
    (settled : ∀ piece ∈ front, piece.callId? ≠ none → piece.done = true)
    (heard : List.Forall₂ Says rest parts)
    (waiting : serializer.deferredContentEvents = parts.flatten) (requestId : PyStr) :
    Advances config serializer (.semantic (.toolCallCompleted requestId call))
      (front ++ .call call.callId call.name call.index call.argumentsJson true :: rest)
      events := by
  rcases project_callCompleted inCall requestId rfl with ⟨middle, projected, ready, carries⟩
  have settledThen : ∀ piece ∈ front ++
      [.call call.callId call.name call.index call.argumentsJson true],
      piece.callId? ≠ none → piece.done = true := by
    intro piece member isCall
    rcases List.mem_append.mp member with old | new
    · exact settled piece old isCall
    · rw [List.mem_singleton.mp new]
      rfl
  have noSegment (other : List Piece) (kind : SegmentKind) (said : PyStr)
      (same : front ++ [.call call.callId call.name call.index call.argumentsJson true] =
        other ++ [.segment kind said false]) : middle.block kind = some other.length := by
    rcases List.append_inj' same rfl with ⟨-, absurd⟩
    cases absurd
  rcases drain_standing heard ready settledThen fun _ => noSegment with
    ⟨after, second, drained, standing, usage⟩
  rw [← waiting, ← carries.deferred] at drained
  have can : serializer.canProject (.semantic (.toolCallCompleted requestId call)) = true := by
    simp [canProject, inCall.pending]
  refine ⟨_, _, feed_projected inCall.running can projected drained, ?_,
    usage.trans carries.usage⟩
  simpa using standing

end OpenCall

variable {output next : Output} {event : ServingEvent}

/-- Between calls, every event is projected at once. -/
theorem idle_step (ready : Ready config serializer output.pieces events)
    (nothing : serializer.deferredContentEvents = [])
    (settled : ∀ piece ∈ output.pieces, piece.callId? ≠ none → piece.done = true)
    (block : ∀ front kind text, output.pieces = front ++ [.segment kind text false] →
      serializer.block kind = some front.length)
    (step : Step (messageRules loads) output event next) :
    Advances config serializer event next.pieces events := by
  have called {position : Nat} {callId name : PyStr} {index : Nat} {arguments : PyStr}
      (piece : output.pieces[position]? = some (.call callId name index arguments false)) :
      False := by
    have done := settled _ (List.mem_of_getElem? piece) (by simp [Piece.callId?])
    cases done
  have older {front : List Piece} {last : Piece} (split : output.pieces = front ++ [last]) :
      ∀ piece ∈ front, piece.callId? ≠ none → piece.done = true := by
    intro piece member
    exact settled piece (by rw [split]; exact List.mem_append_left _ member)
  cases step with
  | started kind requestId closed apart =>
      rcases project_started ready kind requestId with
        ⟨after, emitted, projected, inSegment, carries⟩
      exact feed_segment ready.running ready.free nothing settled projected inSegment carries
  | @delta kind requestId text position before current piece continues =>
      rcases split_last piece continues with ⟨front, split, rfl⟩
      have inSegment : InSegment config serializer front kind before false events :=
        ⟨split ▸ ready, block front kind before split⟩
      rcases project_delta inSegment requestId text with
        ⟨after, emitted, projected, inSegmentThen, carries⟩
      rw [Output.set_pieces, split, set_behind]
      exact feed_segment ready.running ready.free nothing (older split) projected inSegmentThen
        carries
  | @completed kind requestId text position current piece continues =>
      rcases split_last piece continues with ⟨front, split, rfl⟩
      have inSegment : InSegment config serializer front kind text false events :=
        ⟨split ▸ ready, block front kind text split⟩
      rcases project_completed inSegment requestId text with
        ⟨after, emitted, projected, inSegmentThen, carries⟩
      rw [Output.point_pieces, Output.set_pieces, split, set_behind]
      exact feed_segment ready.running ready.free nothing (older split) projected inSegmentThen
        carries
  | callStarted requestId callId name index callIdNonBlank nameNonBlank starts =>
      rcases project_callStarted ready requestId callId name index with
        ⟨after, emitted, projected, inCall, carries⟩
      have drained : after.drain config after.deferredContentEvents =
          some ({ after with deferredContentEvents := [] }, []) := by
        rw [carries.deferred, nothing, drain]
      refine ⟨_, _, feed_projected ready.running (canProject_free ready.free _) projected
        drained, ?_, carries.usage⟩
      rw [List.append_nil]
      exact .busy rfl ⟨inCall.shown, inCall.size, inCall.running, inCall.pending, inCall.block⟩
        settled .nil rfl
  | @callDelta requestId callId name text index position before piece continues =>
      exact (called piece).elim
  | @callCompleted requestId call position before piece completes => exact (called piece).elim
  | usageUpdated requestId usage =>
      refine ⟨{ serializer with usage := some usage }, [], by simp [feed, ready.running], ?_,
        rfl⟩
      rw [List.append_nil]
      exact .idle ⟨ready.shown, ready.size, ready.running, ready.free⟩ nothing settled block
  | timingUpdated requestId timing =>
      refine ⟨{ serializer with deferredContentEvents := [] }, [], ?_, ?_, rfl⟩
      · simp [feed, ready.running, isContentOrSuccessTerminal, advance, project, projectOpen,
          nothing, drain]
      · rw [List.append_nil]
        exact .idle ⟨ready.shown, ready.size, ready.running, ready.free⟩ rfl settled block

/-- While a call is open, its own events are projected and those of other pieces wait. -/
theorem busy_step {rest : List Piece} {callId name : PyStr} {index : Nat} {arguments : PyStr}
    {parts : List (List ServingEvent)}
    (split : output.pieces = front ++ .call callId name index arguments false :: rest)
    (inCall : InCall config serializer front callId name index arguments events)
    (settled : ∀ piece ∈ front, piece.callId? ≠ none → piece.done = true)
    (heard : List.Forall₂ Says rest parts)
    (waiting : serializer.deferredContentEvents = parts.flatten)
    (distinct : output.callIndices.Nodup) (step : Step (messageRules loads) output event next) :
    Advances config serializer event next.pieces events := by
  cases step with
  | started kind requestId closed apart =>
      have first : Says _ [_] := .started kind requestId
      rcases heard_new heard first with ⟨heardThen, grown⟩
      have fed := feed_behind inCall settled waiting (inCall.waits first) heardThen grown
      simpa [split] using fed
  | @delta kind requestId text position before current piece continues =>
      rcases split_last piece continues with ⟨whole, last, rfl⟩
      rcases split_behind (split.symm.trans last) with ⟨-, -, absurd⟩ | ⟨between, rfl, rfl⟩
      · cases absurd
      rcases heard_more heard fun part spoken => .delta spoken requestId text with
        ⟨parts', heardThen, grown⟩
      have held : serializer.canProject (.semantic (kind.delta requestId text)) = false := by
        cases kind <;> simp [canProject, inCall.pending, SegmentKind.delta]
      have fed := feed_behind inCall settled waiting held heardThen grown
      rw [Output.set_pieces, last, set_behind]
      simpa using fed
  | @completed kind requestId text position current piece continues =>
      rcases split_last piece continues with ⟨whole, last, rfl⟩
      rcases split_behind (split.symm.trans last) with ⟨-, -, absurd⟩ | ⟨between, rfl, rfl⟩
      · cases absurd
      rcases heard_more heard fun part spoken => .completed spoken requestId text with
        ⟨parts', heardThen, grown⟩
      have held : serializer.canProject (.semantic (kind.completed requestId text)) = false := by
        cases kind <;> simp [canProject, inCall.pending, SegmentKind.completed]
      have fed := feed_behind inCall settled waiting held heardThen grown
      rw [Output.point_pieces, Output.set_pieces, last, set_behind]
      simpa using fed
  | callStarted requestId newId newName newIndex callIdNonBlank nameNonBlank starts =>
      have first : Says _ [_] := .callStarted requestId newId newName newIndex
      rcases heard_new heard first with ⟨heardThen, grown⟩
      have fed := feed_behind inCall settled waiting (inCall.waits first) heardThen grown
      simpa [split] using fed
  | @callDelta requestId otherId otherName text otherIndex position before piece continues =>
      rcases split_last piece continues with ⟨whole, last, rfl⟩
      rw [Output.set_pieces, last, set_behind]
      rcases split_behind (split.symm.trans last) with ⟨rfl, rfl, same⟩ | ⟨between, rfl, rfl⟩
      · cases same
        exact feed_callDelta inCall settled heard waiting requestId text
      · rw [Output.callIndices, last] at distinct
        have apart := index_apart distinct
        rcases heard_more heard fun part spoken => .callDelta spoken requestId otherId text with
          ⟨parts', heardThen, grown⟩
        have held : serializer.canProject
            (.semantic (.toolCallArgumentsDelta requestId otherId text otherIndex)) = false := by
          simp [canProject, inCall.pending, apart]
        have fed := feed_behind inCall settled waiting held heardThen grown
        simpa using fed
  | @callCompleted requestId call position before piece completes =>
      rcases completes with ⟨rfl, -, earlier⟩
      have here : position = front.length := by
        rcases Nat.lt_trichotomy position front.length with inside | same | outside
        · rw [split, List.getElem?_append_left inside] at piece
          have done := settled _ (List.mem_of_getElem? piece) (by simp [Piece.callId?])
          cases done
        · exact same
        · have done := earlier front.length _ outside (by rw [split]; simp; rfl)
          cases done
      subst here
      rw [split] at piece
      simp only [Nat.le_refl, List.getElem?_append_right, Nat.sub_self, List.getElem?_cons_zero,
        Option.some.injEq] at piece
      cases piece
      rw [Output.set_pieces, split, set_behind]
      exact feed_callCompleted inCall settled heard waiting requestId
  | usageUpdated requestId usage =>
      refine ⟨{ serializer with usage := some usage }, [], by simp [feed, inCall.running], ?_,
        rfl⟩
      rw [List.append_nil]
      exact .busy split ⟨inCall.shown, inCall.size, inCall.running, inCall.pending, inCall.block⟩
        settled heard waiting
  | timingUpdated requestId timing =>
      refine ⟨serializer, [], ?_, ?_, rfl⟩
      · simp [feed, inCall.running, isContentOrSuccessTerminal, advance, project, projectOpen,
          drain_waiting heard inCall.pending waiting]
      · rw [List.append_nil]
        exact .busy split inCall settled heard waiting

theorem Standing.step (standing : Standing config serializer output.pieces events)
    (distinct : output.callIndices.Nodup) (step : Step (messageRules loads) output event next) :
    Advances config serializer event next.pieces events := by
  cases standing with
  | idle ready nothing settled block => exact idle_step ready nothing settled block step
  | busy split inCall settled heard waiting =>
      exact busy_step split inCall settled heard waiting distinct step

/-! ## Runs -/

/-- No two calls of a run have the same index. -/
theorem nodup_step (distinct : output.callIndices.Nodup)
    (step : Step (messageRules loads) output event next) : next.callIndices.Nodup := by
  cases step with
  | started kind requestId closed apart =>
      have same : (output.append (.segment kind [] false)).callIndices = output.callIndices := by
        rw [callIndices_append]
        simp [Piece.index?]
      rw [← same] at distinct
      exact distinct
  | @delta kind requestId text position before current piece continues =>
      rw [callIndices_set piece (.segment kind (before ++ text) false) rfl]
      exact distinct
  | @completed kind requestId text position current piece continues =>
      rw [← callIndices_set piece (.segment kind text true) rfl] at distinct
      exact distinct
  | callStarted requestId callId name index callIdNonBlank nameNonBlank starts =>
      rw [callIndices_append]
      apply List.nodup_append.mpr
      refine ⟨distinct, List.nodup_singleton index, ?_⟩
      rintro other old _ (_ | ⟨_, ⟨⟩⟩) rfl
      exact starts.1 old
  | @callDelta requestId callId name text index position before piece continues =>
      rw [callIndices_set piece (.call callId name index (before ++ text) false) rfl]
      exact distinct
  | @callCompleted requestId call position before piece completes =>
      rw [callIndices_set piece (.call call.callId call.name call.index call.argumentsJson true)
        rfl]
      exact distinct
  | usageUpdated requestId usage => exact distinct
  | timingUpdated requestId timing => exact distinct

theorem feedAll_append (serializer : AnthropicMessageStreamSerializer)
    (first second : List ServingEvent) :
    serializer.feedAll config (first ++ second) =
      (serializer.feedAll config first).bind fun middle =>
        (middle.1.feedAll config second).map fun last => (last.1, middle.2 ++ last.2) := by
  induction first generalizing serializer with
  | nil => simp [feedAll]
  | cons event events induction =>
      simp only [List.cons_append, feedAll, Option.bind_eq_bind]
      cases serializer.feed config event with
      | none => rfl
      | some fed =>
          simp only [Option.bind_some, induction]
          cases fed.1.feedAll config events with
          | none => rfl
          | some middle =>
              simp only [Option.bind_some]
              cases middle.1.feedAll config second <;> simp

/-- The serializer behind the event that starts the message. -/
theorem feed_messageStart (requestId : PyStr) :
    new.feed config (.generationStarted requestId) = some (new, [.messageStart]) := rfl

theorem Standing.run {events : List ServingEvent} (run : Run (messageRules loads) events output) :
    ∃ after emitted, new.feedAll config events = some (after, emitted) ∧
      Standing config after output.pieces emitted ∧ output.callIndices.Nodup ∧
      after.usage = events.foldl usageAfter none := by
  induction run with
  | start =>
      exact ⟨new, [], rfl, .idle ⟨.nil, rfl, rfl, rfl⟩ rfl (by simp [Output.start])
        (by simp [Output.start]), List.nodup_nil, rfl⟩
  | @step events output next event run step induction =>
      rcases induction with ⟨middle, first, fed, standing, distinct, usage⟩
      rcases standing.step distinct step with ⟨after, second, fedLast, standingThen, usageThen⟩
      refine ⟨after, first ++ second, ?_, standingThen, nodup_step distinct step, ?_⟩
      · rw [feedAll_append, fed]
        simp [feedAll, fedLast]
      · rw [List.foldl_append, ← usage]
        exact usageThen

/-! ## Whole messages -/

/-- The block of a completed piece streams the block of the message. -/
theorem streams_of_block {index : Nat} {piece : Piece} {block : List StreamEvent}
    (events : BlockEvents config index piece block) (done : piece.done = true)
    (reads : Reads loads piece) :
    Streams config loads index (blockOf config loads piece) block := by
  rcases events with ⟨deltas, said, rfl⟩
  cases piece with
  | segment kind text closed =>
      cases done
      cases kind with
      | reasoning =>
          rw [blockOf, ← said]
          exact .thinking deltas
      | message =>
          rw [blockOf, ← said]
          exact .text deltas
  | call callId name number arguments closed =>
      cases done
      rcases reads with ⟨entries, reads⟩
      rw [shownText] at said
      rw [blockOf, if_pos rfl, argumentsOf, reads]
      exact .toolUse deltas (said ▸ reads)

/-- Where every piece is completed nothing waits, and the end of the message is streamed. -/
theorem Standing.completes (standing : Standing config serializer pieces events)
    (closed : ∀ piece ∈ pieces, piece.done = true) (requestId : PyStr) (reason : CompletionReason)
    (usage : Option TokenUsage) (stopSequence : Option PyStr) : ∃ after,
      Shown config pieces events ∧
      serializer.feed config (.generationCompleted requestId reason usage stopSequence) =
        some (after, [.messageDelta (stopReason reason stopSequence) stopSequence
          (anthropicUsage (usage.or serializer.usage)), .messageStop]) := by
  cases standing with
  | idle ready nothing settled block =>
      refine ⟨{ serializer with terminal := true, deferredContentEvents := [] }, ready.shown, ?_⟩
      simp [feed, ready.running, canProject_free ready.free, advance, project, projectOpen, nothing,
        drain]
  | @busy front rest callId name index arguments parts split inCall settled heard waiting =>
      have done := closed (.call callId name index arguments false) (by simp [split])
      cases done

/-- A message that is streamed is that of a request that is not: the blocks of the stream, one
behind the other, are those of the content, and the end says the same of them. -/
theorem stream_agrees_with_message {events : List ServingEvent}
    (run : Run (messageRules loads) events output) (closed : output.Closed) (requestId : PyStr)
    (reason : CompletionReason) (usage : Option TokenUsage) (stopSequence : Option PyStr) :
    ∃ (message : AnthropicMessage) (blocks : List (List StreamEvent))
      (after : AnthropicMessageStreamSerializer),
      ((AnthropicMessageAccumulator.new.consumeAll config loads (.generationStarted requestId ::
        (events ++ [.generationCompleted requestId reason usage stopSequence]))).bind
          (·.result)) = .ok message ∧
      new.feedAll config (.generationStarted requestId ::
        (events ++ [.generationCompleted requestId reason usage stopSequence])) =
          some (after, .messageStart :: (blocks.flatten ++
            [.messageDelta message.stopReason message.stopSequence message.usage,
              .messageStop])) ∧
      blocks.length = message.content.length ∧
      ∀ index content block, message.content[index]? = some content →
        blocks[index]? = some block → Streams config loads index content block := by
  rcases @Accumulates.run config _ _ _ run with ⟨accumulator, consumed, holds, counted⟩
  rcases @Standing.run config _ _ _ run with ⟨serializer, emitted, fed, standing, -, used⟩
  rcases standing.completes closed requestId reason usage stopSequence with
    ⟨after, ⟨blocks, size, shown, rfl⟩, fedLast⟩
  refine ⟨⟨accumulator.content, stopReason reason stopSequence, stopSequence,
    anthropicUsage (usage.or accumulator.usage)⟩, blocks, after, ?_, ?_, ?_, ?_⟩
  · rw [AnthropicMessageAccumulator.consumeAll] at consumed ⊢
    change ((events ++ [_]).foldlM (AnthropicMessageAccumulator.consume config loads) _).bind _ = _
    rw [List.foldlM_append, consumed]
    change AnthropicMessageAccumulator.result _ = _
    simp [AnthropicMessageAccumulator.result, holds.unfailed]
  · rw [feedAll, feed_messageStart]
    simp [feedAll_append, fed, feedAll, fedLast, counted, used]
  · rw [size, holds.length]
  · intro index content block foundContent foundBlock
    dsimp only at foundContent
    rw [holds.content, List.getElem?_map] at foundContent
    rcases Option.map_eq_some_iff.mp foundContent with ⟨piece, found, rfl⟩
    exact streams_of_block (shown index piece block found foundBlock)
      (closed piece (List.mem_of_getElem? found)) (holds.reads piece (List.mem_of_getElem? found))

/-! ## Aborted messages -/

/-- The event ends the generation without a message. A failure without a text for the client
has no error object. -/
inductive Aborts : ServingEvent → PyStr → Prop
  | failed (requestId : PyStr) (error : CanonicalError) (visible : NonBlank error.message) :
      Aborts (.generationFailed requestId error) requestId
  | cancelled (requestId : PyStr) : Aborts (.generationCancelled requestId) requestId

def abortError : ServingEvent → Option AnthropicProtocolError
  | .generationFailed _ error => mapCanonicalError error
  | .generationCancelled _ => some cancelError
  | _ => none

theorem protocolError_visible (statusCode : Nat) (type : PyStr) {message : PyStr}
    (code : Option PyStr) (visible : NonBlank message) :
    protocolError statusCode type message code = some ⟨statusCode, type, message, code⟩ :=
  if_pos visible

theorem mapCanonicalError_visible {error : CanonicalError} (visible : NonBlank error.message) :
    ∃ mapped, mapCanonicalError error = some mapped := by
  rw [mapCanonicalError]
  cases error.category <;> exact ⟨_, protocolError_visible _ _ _ visible⟩

theorem feed_aborts {abort : ServingEvent} {requestId : PyStr}
    (running : serializer.terminal = false) (aborts : Aborts abort requestId) :
    ∃ error, abortError abort = some error ∧ serializer.feed config abort =
      some ({ serializer with deferredContentEvents := [], terminal := true },
        [.error requestId error]) := by
  cases aborts with
  | failed requestId error visible =>
      rcases mapCanonicalError_visible visible with ⟨mapped, maps⟩
      exact ⟨mapped, maps, by simp [feed, running, project, projectOpen, maps]⟩
  | cancelled requestId =>
      exact ⟨cancelError, rfl, by simp [feed, running, project, projectOpen]⟩

theorem feedAll_terminal (ended : serializer.terminal = true) (events : List ServingEvent) :
    serializer.feedAll config events = some (serializer, []) := by
  induction events with
  | nil => rfl
  | cons event events induction => simp [feedAll, feed, ended, induction]

def isOpenCall : Piece → Bool
  | .segment _ _ _ => false
  | .call _ _ _ _ done => !done

def upToOpenCall : List Piece → List Piece
  | [] => []
  | piece :: pieces => if isOpenCall piece then [piece] else piece :: upToOpenCall pieces

theorem isOpenCall_settled {piece : Piece}
    (settled : piece.callId? ≠ none → piece.done = true) : isOpenCall piece = false := by
  cases piece with
  | segment kind text done => rfl
  | call callId name index arguments done =>
      have closed : done = true := settled (by simp [Piece.callId?])
      rw [closed]
      rfl

theorem upToOpenCall_append {rest : List Piece}
    (settled : ∀ piece ∈ front, piece.callId? ≠ none → piece.done = true) :
    upToOpenCall (front ++ rest) = front ++ upToOpenCall rest := by
  induction front with
  | nil => rfl
  | cons piece front induction =>
      have closed := isOpenCall_settled (settled piece (.head _))
      rw [List.cons_append, upToOpenCall, if_neg (by simp [closed]),
        induction fun other member => settled other (.tail _ member), List.cons_append]

theorem Standing.shown (standing : Standing config serializer pieces events) :
    Shown config (upToOpenCall pieces) events := by
  cases standing with
  | idle ready nothing settled block =>
      have whole := @upToOpenCall_append pieces [] settled
      rw [List.append_nil, upToOpenCall, List.append_nil] at whole
      rw [whole]
      exact ready.shown
  | @busy front rest callId name index arguments parts split inCall settled heard waiting =>
      have here : isOpenCall (.call callId name index arguments false) = true := rfl
      rw [split, upToOpenCall_append settled, upToOpenCall, if_pos here]
      exact inCall.shown

def lookupConfig : MessageConfig := ⟨py "m", py "msg_1", py "sig", false, 3⟩

theorem lookup_id : NonBlank (py "c") := by decide

theorem lookup_name : NonBlank (py "look") := by decide

def lookupCall : ToolCallItem := ⟨py "c", py "look", py "\x7b\x7d", 0, lookup_id, lookup_name⟩

def lookupEvents : List ServingEvent :=
  [.semantic (.toolCallStarted (py "r") (py "c") (py "look") 0),
    .semantic (.toolCallArgumentsDelta (py "r") (py "c") (py "\x7b\x7d") 0),
    .semantic (.textStarted (py "r")), .semantic (.textDelta (py "r") (py "hi"))]

def lookupOutput : Output :=
  (((Output.start.append (.call (py "c") (py "look") 0 [] false)).set 0
    (.call (py "c") (py "look") 0 (py "\x7b\x7d") false)).append
      (.segment .message [] false)).point .message (some 1) |>.set 1
        (.segment .message (py "hi") false)

theorem lookupRun : Run (messageRules jsonLoads) lookupEvents lookupOutput := by
  have called : Run (messageRules jsonLoads)
      [.semantic (.toolCallStarted (py "r") (py "c") (py "look") 0)] _ :=
    .step .start (.callStarted (py "r") (py "c") (py "look") 0 lookup_id lookup_name
      ⟨by simp [Output.callIndices, Output.start], fun _ => rfl⟩)
  have asked := Run.step called (.callDelta (py "r") (py "\x7b\x7d") rfl rfl)
  have started := Run.step asked (.started .message (py "r") rfl fun _ _ => rfl)
  have said := Run.step started (.delta .message (py "r") (py "hi") rfl rfl rfl)
  exact said

def lookupEnd : List ServingEvent :=
  [.semantic (.textCompleted (py "r") (py "hi")),
    .semantic (.toolCallCompleted (py "r") lookupCall)]

def lookupMessage : Output :=
  (((lookupOutput.set 1 (.segment .message (py "hi") true)).point .message none).set 0
    (.call (py "c") (py "look") 0 (py "\x7b\x7d") true))

theorem lookupMessageRun :
    Run (messageRules jsonLoads) (lookupEvents ++ lookupEnd) lookupMessage := by
  have said := Run.step lookupRun (.completed .message (py "r") (py "hi") rfl rfl rfl)
  exact Run.step said (.callCompleted (py "r") lookupCall rfl
    ⟨rfl, ⟨[], rfl⟩, fun _ _ absurd => by cases absurd⟩)

theorem stream_agrees_with_message_lookup :
    ∃ (message : AnthropicMessage) (blocks : List (List StreamEvent))
      (after : AnthropicMessageStreamSerializer),
      ((AnthropicMessageAccumulator.new.consumeAll lookupConfig jsonLoads
        (.generationStarted (py "r") :: ((lookupEvents ++ lookupEnd) ++
          [.generationCompleted (py "r") .toolCalls none none]))).bind (·.result)) = .ok message ∧
      new.feedAll lookupConfig (.generationStarted (py "r") :: ((lookupEvents ++ lookupEnd) ++
        [.generationCompleted (py "r") .toolCalls none none])) =
          some (after, .messageStart :: (blocks.flatten ++
            [.messageDelta message.stopReason message.stopSequence message.usage,
              .messageStop])) ∧
      blocks.length = message.content.length ∧
      ∀ index content block, message.content[index]? = some content →
        blocks[index]? = some block →
          Streams lookupConfig jsonLoads index content block := by
  have closed : lookupMessage.Closed := by
    simp [Output.Closed, lookupMessage, lookupOutput, Output.start, Piece.done]
  exact stream_agrees_with_message lookupMessageRun closed (py "r") .toolCalls none none

end ExQServe.Anthropic
