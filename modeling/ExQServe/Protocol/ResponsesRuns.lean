import ExQServe.Protocol.ResponsesOutput

/-! # Runs of the Responses stream

The numbers of the events of a whole stream, its terminal event, and the response that is
built of the same events without a stream. -/

namespace ExQServe.OpenAI

open ExQServe.Model ExQServe.Canonical

/-! ## Emissions -/

structure Emits (before next : ResponsesStreamSerializer) (emitted : List StreamEvent) : Prop where
  numbers : emitted.map (·.sequenceNumber) = List.range' (before.sequence + 1) emitted.length
  sequence : next.sequence = before.sequence + emitted.length
  quiet : next.terminal = false → ∀ event ∈ emitted, event.payload.isTerminal = false
  ended : before.terminal = true → emitted = [] ∧ next = before
  closes : before.terminal = false → next.terminal = true → ∃ front last,
    emitted = front ++ [last] ∧ last.payload.isTerminal = true ∧
      ∀ event ∈ front, event.payload.isTerminal = false

namespace Emits

theorem refl (serializer : ResponsesStreamSerializer) : Emits serializer serializer [] where
  numbers := rfl
  sequence := rfl
  quiet := by simp
  ended _ := ⟨rfl, rfl⟩
  closes running ended := by
    rw [running] at ended
    cases ended

theorem trans {before middle next : ResponsesStreamSerializer} {first second : List StreamEvent}
    (begins : Emits before middle first) (continues : Emits middle next second) :
    Emits before next (first ++ second) where
  numbers := by
    rw [List.map_append, begins.numbers, continues.numbers, begins.sequence, List.length_append,
      ← List.range'_append_1]
    congr 2
    omega
  sequence := by
    rw [continues.sequence, begins.sequence, List.length_append]
    omega
  quiet running := by
    have middleRuns : middle.terminal = false := by
      by_contra ended
      rw [Bool.not_eq_false] at ended
      rw [(continues.ended ended).2, ended] at running
      cases running
    intro event member
    rcases List.mem_append.mp member with early | late
    · exact begins.quiet middleRuns event early
    · exact continues.quiet running event late
  ended done := by
    rcases begins.ended done with ⟨rfl, rfl⟩
    exact continues.ended done
  closes running done := by
    cases middleRuns : middle.terminal with
    | true =>
        rcases continues.ended middleRuns with ⟨rfl, -⟩
        rw [List.append_nil]
        exact begins.closes running middleRuns
    | false =>
        rcases continues.closes middleRuns done with ⟨front, last, rfl, terminal, quiet⟩
        refine ⟨first ++ front, last, by simp, terminal, ?_⟩
        intro event member
        rcases List.mem_append.mp member with early | late
        · exact begins.quiet middleRuns event early
        · exact quiet event late

end Emits

namespace ResponsesStreamSerializer

theorem emit_numbers (serializer : ResponsesStreamSerializer) (payloads : List StreamPayload) :
    (serializer.emit payloads).2.map (·.sequenceNumber) =
      List.range' (serializer.sequence + 1) payloads.length := by
  apply List.ext_getElem
  · simp [emit]
  · intro index _ _
    simp [emit, List.getElem_range']
    omega

@[simp] theorem emit_payloads (serializer : ResponsesStreamSerializer)
    (payloads : List StreamPayload) :
    (serializer.emit payloads).2.map (·.payload) = payloads := by
  apply List.ext_getElem
  · simp [emit]
  · intro index _ _
    simp [emit]

@[simp] theorem emit_length (serializer : ResponsesStreamSerializer)
    (payloads : List StreamPayload) : (serializer.emit payloads).2.length = payloads.length := by
  simp [emit]

/-- A call that emits no terminal event, whatever it does to the state and the usage. -/
theorem emit_quiet {before moved : ResponsesStreamSerializer} {payloads : List StreamPayload}
    (running : before.terminal = false) (sequence : moved.sequence = before.sequence)
    (runs : moved.terminal = false)
    (quiet : ∀ payload ∈ payloads, payload.isTerminal = false) :
    Emits before (moved.emit payloads).1 (moved.emit payloads).2 where
  numbers := by
    rw [emit_numbers, sequence, emit_length]
  sequence := by
    rw [emit_length, ← sequence]
    rfl
  quiet _ := by
    intro event member
    apply quiet
    rw [← emit_payloads moved payloads]
    exact List.mem_map_of_mem member
  ended done := by
    rw [running] at done
    cases done
  closes _ done := by
    change moved.terminal = true at done
    rw [runs] at done
    cases done

/-- A call that emits the terminal event. -/
theorem emit_terminal {before moved : ResponsesStreamSerializer} {payload : StreamPayload}
    (running : before.terminal = false) (sequence : moved.sequence = before.sequence)
    (terminal : payload.isTerminal = true) (ended : moved.terminal = true) :
    Emits before (moved.emit [payload]).1 (moved.emit [payload]).2 where
  numbers := by
    rw [emit_numbers, sequence, emit_length]
  sequence := by
    rw [emit_length, ← sequence]
    rfl
  quiet runs := by
    change moved.terminal = false at runs
    rw [ended] at runs
    cases runs
  ended done := by
    rw [running] at done
    cases done
  closes _ _ := ⟨[], ⟨moved.sequence + 0 + 1, payload⟩, rfl, terminal, by simp⟩

variable {config : ResponseConfig}

theorem complete_emits {serializer : ResponsesStreamSerializer} (reason : CompletionReason)
    (usage : Option TokenUsage) (running : serializer.terminal = false) :
    Emits serializer (serializer.complete reason usage).1 (serializer.complete reason usage).2 := by
  rw [complete]
  split
  · exact emit_terminal running rfl rfl rfl
  · exact emit_terminal running rfl rfl rfl

theorem toolDelta_emits {serializer : ResponsesStreamSerializer} (callId delta : PyStr)
    (running : serializer.terminal = false) :
    Emits serializer (serializer.toolDelta callId delta).1
      (serializer.toolDelta callId delta).2 := by
  rw [toolDelta]
  split
  · exact Emits.refl serializer
  · exact emit_quiet running rfl running (by simp [StreamPayload.isTerminal])

theorem feedOpen_emits {serializer next : ResponsesStreamSerializer} {event : ServingEvent}
    {emitted : List StreamEvent} (running : serializer.terminal = false)
    (fed : serializer.feedOpen config event = some (next, emitted)) :
    Emits serializer next emitted := by
  have quiet (moved : ResponsesStreamSerializer) (payloads : List StreamPayload)
      (made : moved.emit payloads = (next, emitted))
      (sequence : moved.sequence = serializer.sequence) (runs : moved.terminal = false)
      (nonterminal : ∀ payload ∈ payloads, payload.isTerminal = false) :
      Emits serializer next emitted := by
    have emits := emit_quiet running sequence runs nonterminal
    rwa [made] at emits
  cases event with
  | generationStarted requestId =>
      exact quiet _ _ (Option.some.inj fed) rfl running (by simp [StreamPayload.isTerminal])
  | generationCompleted requestId reason usage stopSequence =>
      have emits := complete_emits reason usage running
      rwa [Option.some.inj fed] at emits
  | generationCancelled requestId =>
      cases fed
      exact emit_terminal running rfl rfl rfl
  | generationFailed requestId error =>
      rcases Option.map_eq_some_iff.mp fed with ⟨mapped, -, made⟩
      cases made
      exact emit_terminal running rfl rfl rfl
  | timingUpdated requestId timing =>
      cases fed
      exact Emits.refl serializer
  | usageUpdated requestId usage =>
      cases fed
      exact @emit_quiet serializer { serializer with usage := some usage } [] running rfl running
        (by simp)
  | semantic event =>
      cases event with
      | toolCallArgumentsDelta requestId callId delta index =>
          have emits := toolDelta_emits callId delta running
          rwa [Option.some.inj fed] at emits
      | _ =>
          exact quiet _ _ (Option.some.inj fed) rfl running (by simp [StreamPayload.isTerminal])

theorem feed_emits {serializer next : ResponsesStreamSerializer} {event : ServingEvent}
    {emitted : List StreamEvent} (fed : serializer.feed config event = some (next, emitted)) :
    Emits serializer next emitted := by
  rw [feed] at fed
  split at fed
  · cases fed
    exact Emits.refl serializer
  · rename_i running
    exact feedOpen_emits (Bool.eq_false_of_not_eq_true running) fed

theorem feedAll_emits {events : List ServingEvent} {serializer next : ResponsesStreamSerializer}
    {emitted : List StreamEvent} (fed : serializer.feedAll config events = some (next, emitted)) :
    Emits serializer next emitted := by
  induction events generalizing serializer emitted with
  | nil =>
      cases fed
      exact Emits.refl next
  | cons event events induction =>
      rcases Option.bind_eq_some_iff.mp fed with ⟨⟨middle, first⟩, fedFirst, rest⟩
      rcases Option.bind_eq_some_iff.mp rest with ⟨⟨last, second⟩, fedRest, made⟩
      cases made
      exact (feed_emits fedFirst).trans (induction fedRest)

theorem feedAll_cons {serializer middle : ResponsesStreamSerializer} {event : ServingEvent}
    {first : List StreamEvent} (fed : serializer.feed config event = some (middle, first))
    (events : List ServingEvent) :
    serializer.feedAll config (event :: events) =
      (middle.feedAll config events).map fun last => (last.1, first ++ last.2) := by
  simp only [feedAll, fed, Option.bind_eq_bind, Option.bind_some]
  cases middle.feedAll config events with
  | none => rfl
  | some last => rfl

theorem feedAll_append (serializer : ResponsesStreamSerializer) (first second : List ServingEvent) :
    serializer.feedAll config (first ++ second) =
      (serializer.feedAll config first).bind fun middle =>
        (middle.1.feedAll config second).map fun last => (last.1, middle.2 ++ last.2) := by
  induction first generalizing serializer with
  | nil => simp [feedAll]
  | cons event first induction =>
      simp only [List.cons_append, feedAll, induction, Option.bind_eq_bind]
      cases serializer.feed config event with
      | none => rfl
      | some middle =>
          rw [Option.bind_some, Option.bind_some]
          cases middle.1.feedAll config first with
          | none => rfl
          | some later =>
              rw [Option.bind_some, Option.bind_some, Option.bind_some]
              cases later.1.feedAll config second with
              | none => rfl
              | some last => simp

theorem feedAll_terminal {serializer : ResponsesStreamSerializer}
    (ended : serializer.terminal = true) (events : List ServingEvent) :
    serializer.feedAll config events = some (serializer, []) := by
  induction events with
  | nil => rfl
  | cons event events induction => simp [feedAll, feed, ended, induction]

end ResponsesStreamSerializer

/-! ## The response without a stream -/

/-- The terminal event of a stream beside the accumulator's `result`. -/
def ResponsesAccumulator.Ends (accumulator : ResponsesAccumulator) (event : ResponseEvent)
    (response : ResponseObject) : Prop :=
  match accumulator.result with
  | .ok made =>
      event = (if made.status = py "completed" then .completed else .incomplete) ∧
        response = made
  | .error (.protocolError error) =>
      event = .failed ∧ response = ⟨py "failed", accumulator.state.output, accumulator.usage,
        some (error.toErrorObject false), none⟩
  | .error .notTerminal => False

/-- A whole stream beside the accumulator of its events: consecutive numbers, one terminal
event at the end, and the same response. -/
def Delivers (emitted : List StreamEvent) (accumulator : ResponsesAccumulator) : Prop :=
  emitted.map (·.sequenceNumber) = List.range' 1 emitted.length ∧
  ∃ front event response,
    emitted.map (·.payload) = front ++ [.response event response] ∧
    (∀ payload ∈ front, payload.isTerminal = false) ∧ accumulator.Ends event response

/-- A terminal event is no failure with a blank message, for which there is no error object. -/
def Mappable : ServingEvent → Prop
  | .generationFailed _ error => error.category = .contextLength ∨ NonBlank error.message
  | _ => True

theorem protocolError_isSome (statusCode : Nat) (type code message : PyStr)
    (cause : Option PyStr) :
    (protocolError statusCode type code message cause).isSome = true ↔ NonBlank message := by
  rw [protocolError]
  split <;> simp_all

theorem contextWindow_nonBlank : NonBlank (py "Request exceeds the model context window.") := by
  decide

theorem mapCanonicalError_isSome (error : CanonicalError) :
    (mapCanonicalError error).isSome = true ↔
      error.category = .contextLength ∨ NonBlank error.message := by
  rw [mapCanonicalError]
  cases error.category with
  | contextLength => simp [protocolError_isSome, contextWindow_nonBlank]
  | _ => simp [protocolError_isSome]

/-- A stream and an accumulator of the same events, none of them terminal. -/
structure InStep (serializer : ResponsesStreamSerializer) (accumulator : ResponsesAccumulator) :
    Prop where
  state : serializer.state = accumulator.state
  usage : serializer.usage = accumulator.usage
  running : serializer.terminal = false
  status : accumulator.status = none
  incompleteDetails : accumulator.incompleteDetails = none
  error : accumulator.error = none

theorem cancelled_ne_completed : py "cancelled" ≠ py "completed" := by decide

theorem incomplete_ne_completed : py "incomplete" ≠ py "completed" := by decide

namespace InStep

variable (config : ResponseConfig) {serializer : ResponsesStreamSerializer}
  {accumulator : ResponsesAccumulator}

theorem new : InStep .new .new := ⟨rfl, rfl, rfl, rfl, rfl, rfl⟩

/-- Both with another state. -/
theorem moved (same : InStep serializer accumulator) (state : ResponseState)
    (payloads : List StreamPayload) :
    InStep (serializer.moved state payloads).1 (accumulator.moved state) :=
  ⟨rfl, same.usage, same.running, same.status, same.incompleteDetails, same.error⟩

/-- One event on both sides. -/
theorem feedOpen (same : InStep serializer accumulator) {event : ServingEvent}
    (running : event.isTerminal = false) : ∃ next emitted after,
      serializer.feedOpen config event = some (next, emitted) ∧
      accumulator.consume config event = some after ∧ InStep next after := by
  cases event with
  | generationStarted requestId => exact ⟨_, _, _, rfl, rfl, ⟨same.state, same.usage, same.running,
      same.status, same.incompleteDetails, same.error⟩⟩
  | generationCompleted requestId reason usage stopSequence => cases running
  | generationCancelled requestId => cases running
  | generationFailed requestId error => cases running
  | timingUpdated requestId timing => exact ⟨_, _, _, rfl, rfl, same⟩
  | usageUpdated requestId usage => exact ⟨_, _, _, rfl, rfl, ⟨same.state, rfl, same.running,
      same.status, same.incompleteDetails, same.error⟩⟩
  | semantic event =>
      have state := same.state
      cases event with
      | toolCallArgumentsDelta requestId callId delta index =>
          simp only [ResponsesStreamSerializer.feedOpen, ResponsesAccumulator.consume,
            ResponsesStreamSerializer.toolDelta, ← state]
          cases serializer.state.tools.get? callId with
          | none => exact ⟨_, _, _, rfl, rfl, same⟩
          | some position => exact ⟨_, _, _, rfl, rfl, same.moved _ _⟩
      | _ =>
          simp only [ResponsesStreamSerializer.feedOpen, ResponsesAccumulator.consume, ← state]
          exact ⟨_, _, _, rfl, rfl, same.moved _ _⟩

theorem feedAll (same : InStep serializer accumulator) {events : List ServingEvent}
    (running : ∀ event ∈ events, event.isTerminal = false) : ∃ next emitted after,
      serializer.feedAll config events = some (next, emitted) ∧
      accumulator.consumeAll config events = some after ∧ InStep next after := by
  induction events generalizing serializer accumulator with
  | nil => exact ⟨_, _, _, rfl, rfl, same⟩
  | cons event events induction =>
      rcases same.feedOpen config (running event (.head _)) with
        ⟨middle, first, between, fed, consumed, stepped⟩
      rcases induction stepped fun other member => running other (.tail _ member) with
        ⟨next, later, after, fedRest, consumedRest, last⟩
      refine ⟨next, first ++ later, after, ?_, ?_, last⟩
      · simp [ResponsesStreamSerializer.feedAll, ResponsesStreamSerializer.feed, same.running, fed,
          fedRest]
      · rw [ResponsesAccumulator.consumeAll, List.foldlM_cons, consumed]
        exact consumedRest

/-- The terminal event on both sides. -/
theorem ends (same : InStep serializer accumulator) {last : ServingEvent}
    (terminal : last.isTerminal = true) :
    (¬Mappable last ∧ serializer.feedOpen config last = none ∧
      accumulator.consume config last = none) ∨
    Mappable last ∧ ∃ next event response after,
      (serializer.feedOpen config last).map (fun fed => (fed.1, fed.2.map (·.payload))) =
        some (next, [.response event response]) ∧
      next.terminal = true ∧ accumulator.consume config last = some after ∧
      after.Ends event response := by
  cases last with
  | generationStarted requestId => cases terminal
  | timingUpdated requestId timing => cases terminal
  | usageUpdated requestId usage => cases terminal
  | semantic event => cases terminal
  | generationCancelled requestId =>
      refine .inr ⟨trivial, _, _, _, _, rfl, rfl, rfl, ?_⟩
      simp [ResponsesAccumulator.Ends, ResponsesAccumulator.result, same.error, same.state,
        same.usage, same.incompleteDetails, ResponsesStreamSerializer.currentResponse,
        cancelled_ne_completed]
  | generationCompleted requestId reason usage stopSequence =>
      by_cases cut : reason = .length
      · subst cut
        refine .inr ⟨trivial, _, _, _, _, rfl, rfl, rfl, ?_⟩
        simp [ResponsesAccumulator.Ends, ResponsesAccumulator.result, same.error, same.state,
          same.usage, ResponsesAccumulator.complete, ResponsesStreamSerializer.currentResponse,
          incomplete_ne_completed]
      · right
        simp only [ResponsesStreamSerializer.feedOpen, ResponsesStreamSerializer.complete,
          ResponsesAccumulator.consume, ResponsesAccumulator.complete, if_neg cut]
        refine ⟨trivial, _, _, _, _, rfl, rfl, rfl, ?_⟩
        simp [ResponsesAccumulator.Ends, ResponsesAccumulator.result, same.error, same.state,
          same.usage, same.incompleteDetails, ResponsesStreamSerializer.currentResponse]
  | generationFailed requestId error =>
      have known := mapCanonicalError_isSome error
      simp only [ResponsesStreamSerializer.feedOpen, ResponsesAccumulator.consume, Mappable,
        ← known]
      cases mapCanonicalError error with
      | none => exact .inl ⟨by simp, rfl, rfl⟩
      | some mapped =>
          refine .inr ⟨rfl, _, _, _, _, rfl, rfl, rfl, ?_⟩
          simp [ResponsesAccumulator.Ends, ResponsesAccumulator.result, same.state, same.usage,
            ResponsesStreamSerializer.currentResponse]

end InStep

/-- Whatever the events in front of the first terminal one are, and whatever the stream is fed
behind it: the stream has consecutive numbers and one terminal event, its last one, with the
response that the accumulator makes of the events up to the terminal one. Both raise for a
failure whose error cannot be mapped. -/
theorem final_response_agrees (config : ResponseConfig) {events : List ServingEvent}
    {last : ServingEvent} (running : ∀ event ∈ events, event.isTerminal = false)
    (terminal : last.isTerminal = true) (more : List ServingEvent) :
    (Mappable last → ∃ serializer emitted accumulator,
      ResponsesStreamSerializer.new.feedAll config (events ++ last :: more) =
        some (serializer, emitted) ∧
      ResponsesAccumulator.new.consumeAll config (events ++ [last]) = some accumulator ∧
      Delivers emitted accumulator) ∧
    (¬Mappable last →
      ResponsesStreamSerializer.new.feedAll config (events ++ last :: more) = none ∧
      ResponsesAccumulator.new.consumeAll config (events ++ [last]) = none) := by
  rcases InStep.new.feedAll config running with ⟨middle, emitted, between, fed, consumed, same⟩
  have whole : ResponsesAccumulator.new.consumeAll config (events ++ [last]) =
      between.consume config last := by
    rw [ResponsesAccumulator.consumeAll] at consumed ⊢
    rw [List.foldlM_append, consumed]
    simp
  have step : middle.feed config last = middle.feedOpen config last := by
    simp [ResponsesStreamSerializer.feed, same.running]
  rw [whole]
  obtain ⟨blank, fails, failed⟩ | ⟨mappable, next, event, response, after, closing, ended, ends,
    agrees⟩ := same.ends config terminal
  · refine ⟨fun mappable => absurd mappable blank, fun _ => ⟨?_, failed⟩⟩
    rw [ResponsesStreamSerializer.feedAll_append, fed]
    simp [ResponsesStreamSerializer.feedAll, step, fails]
  · rcases Option.map_eq_some_iff.mp closing with ⟨⟨next, closes⟩, fedLast, split⟩
    rcases Prod.mk.inj split with ⟨rfl, payloads⟩
    have streamed : ResponsesStreamSerializer.new.feedAll config (events ++ last :: more) =
        some (next, emitted ++ closes) := by
      rw [ResponsesStreamSerializer.feedAll_append, fed]
      simp [ResponsesStreamSerializer.feedAll, step, fedLast,
        ResponsesStreamSerializer.feedAll_terminal ended]
    have emits := ResponsesStreamSerializer.feedAll_emits streamed
    have quiet := (ResponsesStreamSerializer.feedAll_emits fed).quiet same.running
    refine ⟨fun _ => ⟨next, emitted ++ closes, after, streamed, ends, emits.numbers,
      emitted.map (·.payload), event, response, ?_, ?_, agrees⟩,
      fun blank => absurd mappable blank⟩
    · rw [List.map_append, payloads]
    · simpa using quiet

theorem lookup_callId : NonBlank (py "c") := by decide

theorem lookup_name : NonBlank (py "look") := by decide

def lookupCall : ToolCallItem :=
  ⟨py "c", py "look", py "\x7b\x7d", 0, lookup_callId, lookup_name⟩

def lookupEvents : List ServingEvent :=
  [.semantic (.textStarted (py "r")),
    .semantic (.toolCallStarted (py "r") (py "c") (py "look") 0),
    .semantic (.textDelta (py "r") (py "hi")),
    .semantic (.toolCallArgumentsDelta (py "r") (py "c") (py "\x7b") 0),
    .semantic (.textCompleted (py "r") (py "hi")),
    .semantic (.toolCallArgumentsDelta (py "r") (py "c") (py "\x7d") 0),
    .semantic (.toolCallCompleted (py "r") lookupCall)]

def lookupConfig : ResponseConfig :=
  ⟨py "resp_1", 0, py "m", true, .str (py "auto"), none, true,
    fun index => List.replicate (index + 1) (chr '0')⟩

theorem lookupError_code : NonBlank (py "gone") := by decide

def lookupError (message : PyStr) : CanonicalError :=
  ⟨.internal, py "gone", message, false, none, lookupError_code⟩

/-- A failure with a message is the stream's last event; without one both sides raise. -/
theorem final_response_agrees_failed :
    (∃ serializer emitted accumulator,
      ResponsesStreamSerializer.new.feedAll lookupConfig
        (lookupEvents ++ [.generationFailed (py "r") (lookupError (py "lost")),
          .generationCompleted (py "r") .stop none none]) = some (serializer, emitted) ∧
      ResponsesAccumulator.new.consumeAll lookupConfig
        (lookupEvents ++ [.generationFailed (py "r") (lookupError (py "lost"))]) =
          some accumulator ∧
      Delivers emitted accumulator) ∧
    ResponsesStreamSerializer.new.feedAll lookupConfig
      (lookupEvents ++ [.generationFailed (py "r") (lookupError [])]) = none := by
  have running : ∀ event ∈ lookupEvents, event.isTerminal = false := by
    simp [lookupEvents, ServingEvent.isTerminal]
  have lost : Mappable (.generationFailed (py "r") (lookupError (py "lost"))) :=
    .inr (by decide)
  have blank : ¬Mappable (.generationFailed (py "r") (lookupError [])) := by
    rintro (context | visible)
    · cases context
    · exact visible rfl
  exact ⟨(final_response_agrees lookupConfig running rfl
      [.generationCompleted (py "r") .stop none none]).1 lost,
    ((final_response_agrees lookupConfig running rfl []).2 blank).1⟩

end ExQServe.OpenAI
