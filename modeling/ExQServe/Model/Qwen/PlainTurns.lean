import ExQServe.Model.Qwen.Channels

/-! # Turns over unverified text

What a turn over the buffer does, and what it does when more text stands behind
the buffer. -/

namespace ExQServe.Model.Qwen

open ExQServe.Search ExQServe.Emission Emitting

variable {δ : Type} (config : ParserConfig δ)

theorem plainMarkers_infixFree : InfixFree plainMarkers := by decide

namespace QwenIncrementalParser

variable {parser : QwenIncrementalParser δ}

/-! ## States -/

def extend (more : PyStr) (parser : QwenIncrementalParser δ) : QwenIncrementalParser δ :=
  { parser with buffer := parser.buffer ++ more }

@[simp] theorem extend_nil : parser.extend [] = parser := by
  unfold extend
  rw [List.append_nil]

theorem extend_extend (first second : PyStr) :
    (parser.extend first).extend second = parser.extend (first ++ second) := by
  unfold extend
  rw [List.append_assoc]

def settleMarker (parser : QwenIncrementalParser δ) : QwenIncrementalParser δ :=
  { parser with markerBoundaries := parser.markerBoundaries.settleBeforeMarker }

@[simp] theorem withContent_nil : parser.withContent [] = parser := rfl

@[simp] theorem contentActions_nil : parser.contentActions config [] = [] := rfl

/-- Content reaches the marker tracker and the channels only. -/
theorem withContent_frame (text : PyStr) :
    parser.withContent text =
      { parser with
        markerBoundaries := (parser.withContent text).markerBoundaries
        textOpen := (parser.withContent text).textOpen
        textValue := (parser.withContent text).textValue
        reasoningOpen := (parser.withContent text).reasoningOpen
        reasoningValue := (parser.withContent text).reasoningValue } := by
  unfold withContent
  split
  · rfl
  · split <;> rfl

@[simp] theorem withContent_buffer (text : PyStr) :
    (parser.withContent text).buffer = parser.buffer := by
  rw [withContent_frame]

@[simp] theorem withContent_mode (text : PyStr) :
    (parser.withContent text).mode = parser.mode := by
  rw [withContent_frame]

theorem withContent_extend (text more : PyStr) :
    (parser.extend more).withContent text = (parser.withContent text).extend more := by
  unfold withContent extend
  dsimp only
  split
  · rfl
  · split <;> rfl

theorem contentActions_extend (text more : PyStr) :
    (parser.extend more).contentActions config text = parser.contentActions config text := rfl

theorem withContent_dropBuffer (text : PyStr) (count : Nat) :
    (parser.dropBuffer count).withContent text =
      (parser.withContent text).dropBuffer count := by
  unfold withContent dropBuffer
  dsimp only
  split
  · rfl
  · split <;> rfl

theorem dropBuffer_dropBuffer (first second : Nat) :
    (parser.dropBuffer first).dropBuffer second = parser.dropBuffer (first + second) := by
  unfold dropBuffer
  simp only [List.drop_drop, Nat.add_assoc]

theorem dropBuffer_extend {count : Nat} (bound : count ≤ parser.buffer.length)
    (more : PyStr) :
    (parser.extend more).dropBuffer count = (parser.dropBuffer count).extend more := by
  unfold dropBuffer extend
  rw [List.drop_append_of_le_length bound]

/-! ## Content in pieces -/

theorem withContent_append (first second : PyStr) :
    parser.withContent (first ++ second) = (parser.withContent first).withContent second := by
  by_cases firstEmpty : first = []
  · rw [firstEmpty, List.nil_append, withContent_nil]
  by_cases secondEmpty : second = []
  · rw [secondEmpty, List.append_nil, withContent_nil]
  have bothNonempty : first ++ second ≠ [] := by simp [firstEmpty]
  by_cases reasoning : parser.mode = .reasoning
  · simp [withContent, firstEmpty, secondEmpty, reasoning,
      MarkerBoundaryTracker.observeContent_append]
  · simp [withContent, firstEmpty, secondEmpty, reasoning,
      MarkerBoundaryTracker.observeContent_append]

theorem merge_contentActions_append (first second : PyStr) :
    actionJoining.merge (parser.contentActions config (first ++ second)) =
      actionJoining.merge (parser.contentActions config first ++
        (parser.withContent first).contentActions config second) := by
  by_cases firstEmpty : first = []
  · rw [firstEmpty, List.nil_append, withContent_nil, contentActions_nil, List.nil_append]
  by_cases secondEmpty : second = []
  · rw [secondEmpty, List.append_nil, contentActions_nil, List.append_nil]
  have bothNonempty : first ++ second ≠ [] := by simp [firstEmpty]
  by_cases reasoning : parser.mode = .reasoning
  · have joins : actionJoining.join (.emitted (.reasoningDelta config.requestId first))
        (.emitted (.reasoningDelta config.requestId second)) =
        some (.emitted (.reasoningDelta config.requestId (first ++ second))) := by
      simp [actionJoining, Joining.ofPieces, Joining.joinPieces, ParserAction.event?,
        deltaPiece, wholeDelta]
    have merged := actionJoining.merge_join joins
    have after : (parser.withContent first).contentActions config second =
        [.emitted (.reasoningDelta config.requestId second)] := by
      simp [withContent, contentActions, firstEmpty, secondEmpty, reasoning]
    rw [after]
    unfold contentActions
    rw [if_neg bothNonempty, if_neg firstEmpty, if_pos reasoning, if_pos reasoning,
      List.append_assoc]
    exact actionJoining.merge_append_congr rfl merged.symm
  · have joins : actionJoining.join (.emitted (.textDelta config.requestId first))
        (.emitted (.textDelta config.requestId second)) =
        some (.emitted (.textDelta config.requestId (first ++ second))) := by
      simp [actionJoining, Joining.ofPieces, Joining.joinPieces, ParserAction.event?,
        deltaPiece, wholeDelta]
    have merged := actionJoining.merge_join joins
    have after : (parser.withContent first).contentActions config second =
        [.emitted (.textDelta config.requestId second)] := by
      simp [withContent, contentActions, firstEmpty, secondEmpty, reasoning]
    rw [after]
    unfold contentActions
    rw [if_neg bothNonempty, if_neg firstEmpty, if_neg reasoning, if_neg reasoning,
      List.append_assoc]
    exact actionJoining.merge_append_congr rfl merged.symm

end QwenIncrementalParser

/-! ## Turns -/

section Turns

variable {parser : QwenIncrementalParser δ} {position : Nat} {marker : PyStr}

theorem emitPrefix_run {α : Type} {count : Nat} (bound : count ≤ parser.buffer.length)
    (text : PyStr) (value : α) :
    (do
      emitContent config text
      consumeBufferPrefix count
      pure value : Parsing δ α) parser =
      .ok ⟨value, (parser.withContent text).dropBuffer count,
        parser.contentActions config text⟩ := by
  have consumes : consumeBufferPrefix count (parser.withContent text) =
      .ok ⟨(), (parser.withContent text).dropBuffer count, []⟩ :=
    consumeBufferPrefix_run (by rwa [QwenIncrementalParser.withContent_buffer])
  rw [bind_run_ok (emitContent_run config text parser)]
  dsimp only
  rw [silent_bind consumes, pure_run]
  simp only [Except.map, Ending.after, List.append_nil]

theorem emitMarker_run {α : Type} (whole : marker.length ≤ parser.buffer.length) (value : α) :
    (do
      emitMarker config marker
      pure value : Parsing δ α) parser =
      .ok ⟨value, (parser.withContent marker).dropBuffer marker.length,
        parser.contentActions config marker⟩ := by
  have run := emitPrefix_run config whole marker value
  unfold emitMarker
  rwa [bind_assoc]

theorem marker_bounds (found : firstToken parser.buffer plainMarkers = some (position, marker)) :
    position + marker.length ≤ parser.buffer.length := by
  have isFirst := (firstToken_eq_some_iff plainMarkers_infixFree.nonempty).mp found
  exact isFirst.occurs.end_le (plainMarkers_infixFree.nonempty _ isFirst.member)

theorem processPlain_before (final : Bool)
    (found : firstToken parser.buffer plainMarkers = some (position, marker))
    (later : 0 < position) :
    processPlain config final parser =
      .ok ⟨true, (parser.withContent (parser.buffer.take position)).dropBuffer position,
        parser.contentActions config (parser.buffer.take position)⟩ := by
  have bounds := marker_bounds found
  unfold processPlain
  rw [read_bind]
  simp only [id, found, if_pos later]
  exact emitPrefix_run config (by omega) _ _

theorem processPlain_veto (final : Bool)
    (found : firstToken parser.buffer plainMarkers = some (0, marker))
    (veto : marker = toolOpen ∧ parser.literalToolVetoAtBufferStart) :
    processPlain config final parser =
      .ok ⟨true, (parser.withContent marker).dropBuffer marker.length,
        parser.contentActions config marker⟩ := by
  have bounds := marker_bounds found
  unfold processPlain
  rw [read_bind]
  simp only [id, found, Nat.lt_irrefl, if_false, if_pos veto]
  exact emitMarker_run config (by omega) _

theorem processPlain_marker (final : Bool)
    (found : firstToken parser.buffer plainMarkers = some (0, marker))
    (noVeto : ¬(marker = toolOpen ∧ parser.literalToolVetoAtBufferStart)) :
    processPlain config final parser =
      followDisposition config marker
        (parser.markerBoundaries.classifyPlainMarker parser.buffer marker final).1
        { parser with
          markerBoundaries :=
            (parser.markerBoundaries.classifyPlainMarker parser.buffer marker final).2 } := by
  unfold processPlain
  rw [read_bind]
  simp only [id, found, Nat.lt_irrefl, if_false, if_neg noVeto]
  exact silent_bind rfl

theorem processPlain_none (final : Bool)
    (missing : firstToken parser.buffer plainMarkers = none) :
    processPlain config final parser =
      .ok ⟨false,
        (parser.withContent (parser.buffer.take
          (parser.buffer.length - longestPartialMarkerSuffix parser.buffer))).dropBuffer
          (parser.buffer.length - longestPartialMarkerSuffix parser.buffer),
        parser.contentActions config (parser.buffer.take
          (parser.buffer.length - longestPartialMarkerSuffix parser.buffer))⟩ := by
  unfold processPlain
  rw [read_bind]
  simp only [id, missing]
  by_cases some : 0 < parser.buffer.length - longestPartialMarkerSuffix parser.buffer
  · rw [if_pos some]
    exact emitPrefix_run config (Nat.sub_le _ _) _ _
  · have none : parser.buffer.length - longestPartialMarkerSuffix parser.buffer = 0 := by omega
    rw [if_neg some, none]
    rfl

/-- Nothing happens to text that may all belong to an unfinished marker. -/
theorem processPlain_idle (final : Bool)
    (missing : firstToken parser.buffer plainMarkers = none)
    (held : parser.buffer.length ≤ longestPartialMarkerSuffix parser.buffer) :
    processPlain config final parser = .ok ⟨false, parser, []⟩ := by
  rw [processPlain_none config final missing, Nat.sub_eq_zero_of_le held]
  rfl

end Turns

/-! ## More text behind the buffer -/

section Extend

variable {parser : QwenIncrementalParser δ} {position : Nat} {marker : PyStr} (more : PyStr)

open QwenIncrementalParser

theorem closeCurrentChannel_commutes :
    Commutes (extend more) (closeCurrentChannel (δ := δ) config) := by
  intro parser
  rw [closeCurrentChannel_run, closeCurrentChannel_run]
  unfold closed closeActions extend Ending.relocate
  dsimp only [Except.map]
  split
  · rfl
  · split <;> rfl

theorem switchChannel_commutes (mode : QwenMode) :
    Commutes (extend more) (switchChannel (δ := δ) config marker mode) :=
  (closeCurrentChannel_commutes config more).bind fun _ =>
    (Commutes.update fun _ => by rfl).bind fun _ => .write _

theorem feedActiveToolDecoder_commutes (text : PyStr) :
    Commutes (extend more) (feedActiveToolDecoder (δ := δ) config text) := by
  refine Commutes.read (fun _ => rfl) fun parser => ?_
  cases config.sharedToolDecoderTemplate with
  | none => exact .fail _
  | some decoder =>
      cases parser.activeToolDecoder with
      | none => exact .fail _
      | some active =>
          dsimp only
          cases decoder.feed active text with
          | error failure => exact .fail _
          | ok fed => exact .update fun _ => by rfl

theorem enterTool_commutes (verified : Bool) :
    Commutes (extend more) (enterTool (δ := δ) config verified) := by
  refine (closeCurrentChannel_commutes config more).bind fun _ => ?_
  refine (Commutes.write _).bind fun _ => (Commutes.update fun _ => by rfl).bind fun _ => ?_
  cases config.sharedToolDecoderTemplate with
  | none => exact .fail _
  | some decoder =>
      dsimp only
      split
      · exact .fail _
      · exact (Commutes.update fun _ => by rfl).bind fun _ =>
          feedActiveToolDecoder_commutes config more _

theorem consumeBufferPrefix_extend {α : Type} {count : Nat}
    (bound : count ≤ parser.buffer.length) {next : Unit → Parsing δ α}
    (commutes : ∀ value, Commutes (extend more) (next value)) :
    (consumeBufferPrefix count >>= next) (parser.extend more) =
      ((consumeBufferPrefix count >>= next) parser).map (Ending.relocate (extend more)) := by
  have longer : count ≤ (parser.extend more).buffer.length := by
    unfold extend
    rw [List.length_append]
    omega
  rw [silent_bind (consumeBufferPrefix_run longer), silent_bind (consumeBufferPrefix_run bound),
    dropBuffer_extend bound, commutes]

theorem emitMarker_extend (whole : marker.length ≤ parser.buffer.length) :
    (do
      emitMarker config marker
      pure true : Parsing δ Bool) (parser.extend more) =
      ((do
        emitMarker config marker
        pure true : Parsing δ Bool) parser).map (Ending.relocate (extend more)) := by
  have longer : marker.length ≤ (parser.extend more).buffer.length := by
    unfold extend
    rw [List.length_append]
    omega
  rw [emitMarker_run config longer, emitMarker_run config whole, withContent_extend,
    dropBuffer_extend (by rwa [withContent_buffer]), contentActions_extend]
  rfl

theorem lstrip_append {text : PyStr} (visible : PyStr.lstrip text ≠ []) :
    PyStr.lstrip (text ++ more) = PyStr.lstrip text ++ more := by
  unfold PyStr.lstrip at visible ⊢
  rw [List.dropWhile_append]
  simp [visible]

/-- A marker that the parser is about to execute either waits for more text, or acts
in the same way whatever follows the buffer. -/
theorem executePlainMarker_extend (whole : marker.length ≤ parser.buffer.length) :
    executePlainMarker config marker parser = .ok ⟨false, parser, []⟩ ∨
      executePlainMarker config marker (parser.extend more) =
        (executePlainMarker config marker parser).map (Ending.relocate (extend more)) := by
  unfold executePlainMarker
  by_cases tool : marker = toolOpen
  · simp only [if_pos tool]
    rw [read_bind, read_bind]
    have buffer : (parser.extend more).buffer.drop marker.length =
        parser.buffer.drop marker.length ++ more := List.drop_append_of_le_length whole
    rw [buffer]
    by_cases waits : PyStr.lstrip (parser.buffer.drop marker.length) <+: functionOpen
    · by_cases opens : functionOpen <+: PyStr.lstrip (parser.buffer.drop marker.length)
      · right
        have visible : PyStr.lstrip (parser.buffer.drop marker.length) ≠ [] := by
          intro blank
          rw [blank] at opens
          exact absurd (List.prefix_nil.mp opens) (by decide)
        rw [lstrip_append more visible, if_pos opens, if_pos (opens.trans (List.prefix_append _ _))]
        exact consumeBufferPrefix_extend more whole fun _ =>
          (enterTool_commutes config more false).bind fun _ => .pure _
      · left
        rw [if_neg opens, if_pos waits, pure_run]
    · right
      have visible : PyStr.lstrip (parser.buffer.drop marker.length) ≠ [] := by
        intro blank
        rw [blank] at waits
        exact waits List.nil_prefix
      rw [lstrip_append more visible]
      by_cases opens : functionOpen <+: PyStr.lstrip (parser.buffer.drop marker.length)
      · rw [if_pos opens, if_pos (opens.trans (List.prefix_append _ _))]
        exact consumeBufferPrefix_extend more whole fun _ =>
          (enterTool_commutes config more false).bind fun _ => .pure _
      · have closed : ¬functionOpen <+:
            PyStr.lstrip (parser.buffer.drop marker.length) ++ more := by
          intro opensLater
          rcases List.prefix_or_prefix_of_prefix opensLater (List.prefix_append _ more) with
            first | first
          · exact opens first
          · exact waits first
        have passed : ¬PyStr.lstrip (parser.buffer.drop marker.length) ++ more <+:
            functionOpen :=
          fun waitsLater => waits ((List.prefix_append _ _).trans waitsLater)
        rw [if_neg opens, if_neg waits, if_neg closed, if_neg passed]
        exact emitMarker_extend config more whole
  · right
    simp only [if_neg tool]
    refine consumeBufferPrefix_extend more whole fun _ => ?_
    refine Commutes.read (fun _ => rfl) fun mode => ?_
    split
    · split
      · exact .pure _
      · exact (switchChannel_commutes config more _).bind fun _ => .pure _
    · split
      · exact (switchChannel_commutes config more _).bind fun _ => .pure _
      · exact .pure _

/-- What a turn leaves alone: it does not end the parser, and it touches the decoders
only where it enters a Tool region. -/
structure Continues (config : ParserConfig δ) (before after : QwenIncrementalParser δ) :
    Prop where
  finished : after.finished = before.finished
  literal : after.outsideToolLiteralPending = before.outsideToolLiteralPending
  decoders : after.activeToolDecoder = before.activeToolDecoder ∧
      after.sharedToolDecoder = before.sharedToolDecoder ∨
    ∃ decoder fed, config.sharedToolDecoderTemplate = some decoder ∧
      decoder.feed (before.sharedToolDecoder.getD (decoder.fresh before.callIndex)) toolOpen =
        .ok fed ∧
      after.activeToolDecoder = some fed ∧ after.sharedToolDecoder = none

theorem Continues.withContent (before : QwenIncrementalParser δ) (text : PyStr) (count : Nat) :
    Continues config before ((before.withContent text).dropBuffer count) := by
  unfold dropBuffer
  rw [withContent_frame]
  exact ⟨rfl, rfl, Or.inl ⟨rfl, rfl⟩⟩

theorem Continues.of_settled {before after : QwenIncrementalParser δ}
    (continues : Continues config before.settleMarker after) : Continues config before after :=
  ⟨continues.finished, continues.literal, continues.decoders⟩

theorem Continues.closed (before : QwenIncrementalParser δ) (count : Nat) (mode : QwenMode) :
    Continues config before { (before.dropBuffer count).closed with mode := mode } :=
  ⟨closed_finished _, closed_outsideToolLiteralPending _,
    Or.inl ⟨closed_activeToolDecoder _, closed_sharedToolDecoder _⟩⟩

/-- A marker that is executed leaves a shorter buffer. -/
theorem executePlainMarker_progress (whole : marker.length ≤ parser.buffer.length)
    {ending : Ending (QwenIncrementalParser δ) ParserAction Bool}
    (ended : executePlainMarker config marker parser = .ok ending) :
    ending = ⟨false, parser, []⟩ ∨
      ending.value = true ∧ ending.state.buffer = parser.buffer.drop marker.length ∧
        Continues config parser ending.state := by
  have consumes := consumeBufferPrefix_run whole
  unfold executePlainMarker at ended
  by_cases tool : marker = toolOpen
  · simp only [if_pos tool] at ended
    rw [read_bind] at ended
    split at ended
    · right
      rw [silent_bind consumes] at ended
      rcases bind_eq_ok ended with ⟨middle, last, enters, leaves, rfl⟩
      rcases enterTool_ok config enters with ⟨decoder, fed, template, feeds, rfl⟩
      cases leaves
      refine ⟨rfl, closed_buffer _, ?_, ?_, Or.inr ⟨decoder, fed, template, feeds, rfl, rfl⟩⟩
      · exact closed_finished _
      · exact closed_outsideToolLiteralPending _
    · split at ended
      · left
        cases ended
        rfl
      · right
        rw [emitMarker_run config whole] at ended
        cases ended
        exact ⟨rfl, congrArg (List.drop _) (withContent_buffer _), .withContent config _ _ _⟩
  · right
    simp only [if_neg tool] at ended
    rw [silent_bind consumes, read_bind] at ended
    have switches : ∀ mode, (do
        switchChannel config marker mode
        pure true : Parsing δ Bool) (parser.dropBuffer marker.length) =
        .ok ⟨true, { (parser.dropBuffer marker.length).closed with mode := mode },
          (parser.dropBuffer marker.length).closeActions config ++ [.switched marker]⟩ := by
      intro mode
      rw [bind_run_ok (switchChannel_run config marker mode _), pure_run]
      simp only [Except.map, Ending.after, List.append_nil]
    split at ended
    · split at ended
      · cases ended
        exact ⟨rfl, rfl, rfl, rfl, Or.inl ⟨rfl, rfl⟩⟩
      · rw [switches] at ended
        cases ended
        exact ⟨rfl, closed_buffer _, .closed config _ _ _⟩
    · split at ended
      · rw [switches] at ended
        cases ended
        exact ⟨rfl, closed_buffer _, .closed config _ _ _⟩
      · cases ended
        exact ⟨rfl, rfl, rfl, rfl, Or.inl ⟨rfl, rfl⟩⟩

end Extend

/-! ## Turns that find a marker -/

section Found

variable {parser : QwenIncrementalParser δ} {position : Nat} {marker : PyStr}

open QwenIncrementalParser

theorem marker_nonempty
    (found : firstToken parser.buffer plainMarkers = some (position, marker)) :
    0 < marker.length :=
  List.length_pos_iff.mpr (plainMarkers_infixFree.nonempty _
    ((firstToken_eq_some_iff plainMarkers_infixFree.nonempty).mp found).member)

/-- Before the end of the stream a marker at the start of the buffer is looked at from
a settled context. -/
theorem processPlain_settled
    (found : firstToken parser.buffer plainMarkers = some (0, marker))
    (noVeto : ¬(marker = toolOpen ∧ parser.literalToolVetoAtBufferStart)) :
    processPlain config false parser =
      followDisposition config marker
        (parser.markerBoundaries.classifyPlainMarker parser.buffer marker false).1
        parser.settleMarker := by
  rw [processPlain_marker config false found noVeto,
    MarkerBoundaryTracker.classifyPlainMarker_tracker]
  rfl

/-- A turn that finds a marker waits for more text or shortens the buffer. -/
theorem processPlain_progress
    (found : firstToken parser.buffer plainMarkers = some (position, marker))
    {ending : Ending (QwenIncrementalParser δ) ParserAction Bool}
    (ended : processPlain config false parser = .ok ending) :
    ending = ⟨false, parser.settleMarker, []⟩ ∨
      ending.value = true ∧ ending.state.buffer.length < parser.buffer.length ∧
        Continues config parser ending.state := by
  have bounds := marker_bounds found
  have nonempty := marker_nonempty found
  have shorter : ∀ count, 0 < count → count ≤ parser.buffer.length →
      (parser.buffer.drop count).length < parser.buffer.length := by
    intro count positive bound
    rw [List.length_drop]
    omega
  have emitted : ∀ {state : QwenIncrementalParser δ} {text : PyStr} {count : Nat}
      {log : List ParserAction}, state.buffer = parser.buffer →
      (∀ after, Continues config state after → Continues config parser after) →
      0 < count → count ≤ parser.buffer.length →
      (⟨true, (state.withContent text).dropBuffer count, log⟩ :
        Ending (QwenIncrementalParser δ) ParserAction Bool) = ending →
      ending.value = true ∧ ending.state.buffer.length < parser.buffer.length ∧
        Continues config parser ending.state := by
    rintro state text count log sameBuffer continues positive bound rfl
    refine ⟨rfl, ?_, continues _ (.withContent config _ _ _)⟩
    · have dropped : ((state.withContent text).dropBuffer count).buffer =
          parser.buffer.drop count := by
        unfold dropBuffer
        rw [withContent_buffer, sameBuffer]
      dsimp only
      rw [dropped]
      exact shorter count positive bound
  by_cases later : 0 < position
  · right
    rw [processPlain_before config false found later] at ended
    exact emitted rfl (fun _ => id) later (by omega) (Except.ok.inj ended)
  · have start : position = 0 := by omega
    subst start
    by_cases veto : marker = toolOpen ∧ parser.literalToolVetoAtBufferStart
    · right
      rw [processPlain_veto config false found veto] at ended
      exact emitted rfl (fun _ => id) nonempty (by omega) (Except.ok.inj ended)
    · rw [processPlain_settled config found veto] at ended
      have whole : marker.length ≤ parser.settleMarker.buffer.length := by
        have same : parser.settleMarker.buffer = parser.buffer := rfl
        rw [same]
        omega
      have executed : executePlainMarker config marker parser.settleMarker = .ok ending →
          ending = ⟨false, parser.settleMarker, []⟩ ∨
            ending.value = true ∧ ending.state.buffer.length < parser.buffer.length ∧
              Continues config parser ending.state := by
        intro runs
        rcases executePlainMarker_progress config whole runs with
          waits | ⟨value, rest, continues⟩
        · exact Or.inl waits
        · refine Or.inr ⟨value, ?_, continues.of_settled config⟩
          rw [rest]
          exact shorter _ nonempty (by omega)
      cases disposition :
          (parser.markerBoundaries.classifyPlainMarker parser.buffer marker false).1 <;>
        rw [disposition] at ended
      case pending =>
        cases ended
        exact Or.inl rfl
      case literal =>
        have literal := (emitMarker_run config whole true).symm.trans ended
        exact Or.inr (@emitted parser.settleMarker _ _ _ rfl
          (fun _ => Continues.of_settled config) nonempty (by omega) (Except.ok.inj literal))
      case structural => exact executed ended
      case failClosed => exact executed ended

theorem extend_found (more : PyStr)
    (found : firstToken parser.buffer plainMarkers = some (position, marker)) :
    firstToken (parser.extend more).buffer plainMarkers = some (position, marker) :=
  firstToken_append_of_some plainMarkers_infixFree found more

/-- A turn that waits does the same once more text has come as it would have done had
the text been there. -/
theorem processPlain_again (more : PyStr)
    (found : firstToken parser.buffer plainMarkers = some (position, marker))
    (waits : processPlain config false parser = .ok ⟨false, parser.settleMarker, []⟩) :
    processPlain config false (parser.settleMarker.extend more) =
      processPlain config false (parser.extend more) := by
  by_cases later : 0 < position
  · rw [processPlain_before config false found later] at waits
    cases waits
  · have start : position = 0 := by omega
    subst start
    by_cases veto : marker = toolOpen ∧ parser.literalToolVetoAtBufferStart
    · rw [processPlain_veto config false found veto] at waits
      cases waits
    · have foundMore := extend_found more found
      have foundSettled : firstToken (parser.settleMarker.extend more).buffer plainMarkers =
          some (0, marker) := foundMore
      have vetoMore :
          ¬(marker = toolOpen ∧ (parser.extend more).literalToolVetoAtBufferStart) := veto
      have vetoSettled : ¬(marker = toolOpen ∧
          (parser.settleMarker.extend more).literalToolVetoAtBufferStart) := veto
      have same : (parser.settleMarker.extend more).markerBoundaries.classifyPlainMarker
          (parser.settleMarker.extend more).buffer marker false =
          (parser.extend more).markerBoundaries.classifyPlainMarker
            (parser.extend more).buffer marker false :=
        MarkerBoundaryTracker.classifyPlainMarker_settle _ _ _ _
      rw [processPlain_marker config false foundSettled vetoSettled,
        processPlain_marker config false foundMore vetoMore, same]
      rfl

/-- More text behind the buffer does not show to a turn that finds a marker, unless
the turn waits for it. -/
theorem processPlain_extend (more : PyStr)
    (found : firstToken parser.buffer plainMarkers = some (position, marker)) :
    processPlain config false parser = .ok ⟨false, parser.settleMarker, []⟩ ∨
      processPlain config false (parser.extend more) =
        (processPlain config false parser).map (Ending.relocate (extend more)) := by
  have bounds := marker_bounds found
  have foundMore := extend_found more found
  by_cases later : 0 < position
  · right
    have taken : (parser.extend more).buffer.take position = parser.buffer.take position :=
      List.take_append_of_le_length (by omega)
    rw [processPlain_before config false found later,
      processPlain_before config false foundMore later, taken, withContent_extend,
      dropBuffer_extend (by rw [withContent_buffer]; omega), contentActions_extend]
    rfl
  · have start : position = 0 := by omega
    subst start
    by_cases veto : marker = toolOpen ∧ parser.literalToolVetoAtBufferStart
    · right
      have vetoMore : marker = toolOpen ∧ (parser.extend more).literalToolVetoAtBufferStart :=
        veto
      rw [processPlain_veto config false found veto,
        processPlain_veto config false foundMore vetoMore, withContent_extend,
        dropBuffer_extend (by rw [withContent_buffer]; omega), contentActions_extend]
      rfl
    · have vetoMore :
          ¬(marker = toolOpen ∧ (parser.extend more).literalToolVetoAtBufferStart) := veto
      have whole : marker.length ≤ parser.settleMarker.buffer.length := by
        have same : parser.settleMarker.buffer = parser.buffer := rfl
        rw [same]
        omega
      by_cases waits :
          (parser.markerBoundaries.classifyPlainMarker parser.buffer marker false).1 = .pending
      · left
        rw [processPlain_settled config found veto, waits]
        rfl
      · have same : (parser.extend more).markerBoundaries.classifyPlainMarker
            (parser.extend more).buffer marker false =
            parser.markerBoundaries.classifyPlainMarker parser.buffer marker false :=
          MarkerBoundaryTracker.classifyPlainMarker_append _ whole more waits
        have settled : (parser.extend more).settleMarker = parser.settleMarker.extend more :=
          rfl
        have executed := executePlainMarker_extend config more whole
        rw [processPlain_settled config found veto,
          processPlain_settled config foundMore vetoMore, same, settled]
        cases disposition :
          (parser.markerBoundaries.classifyPlainMarker parser.buffer marker false).1
        case pending => exact absurd disposition waits
        case literal => exact Or.inr (emitMarker_extend config more whole)
        case structural => exact executed
        case failClosed => exact executed

end Found

end ExQServe.Model.Qwen
