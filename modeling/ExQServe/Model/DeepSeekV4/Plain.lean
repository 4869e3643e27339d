import ExQServe.Model.DeepSeekV4.Resuming

/-! # Plain DeepSeek-V4 output

A text without markers is delivered whole, except that with tools a line break at its end is
taken for the start of a tool block. -/

namespace ExQServe.Model.DeepSeekV4.DeepSeekV4IncrementalParser

open ExQServe.Search ExQServe.Emission

variable (config : DeepSeekV4Config)

def wholeContent (text : PyStr) : List GenerationEvent :=
  let requestId := config.request.requestId
  if text = [] then []
  else
    match (fresh config).mode with
    | .reasoning =>
        [.reasoningStarted requestId, .reasoningDelta requestId text,
          .reasoningCompleted requestId text]
    | .text => [.textStarted requestId, .textDelta requestId text, .textCompleted requestId text]

/-- The run shows the text in one channel and no incomplete tool call. -/
def DeliveredWhole (chunks : List PyStr) : Prop :=
  observed (run config chunks) = .ok (wholeContent config chunks.flatten, false)

def Plain (text : PyStr) : Prop := ∀ marker ∈ markers config, ¬marker <:+: text

/-- The text does not end with the start of a marker that begins with `<`. -/
def EndsClean (text : PyStr) : Prop :=
  ∀ marker ∈ markers config, marker.head? = some (chr '<') → ∀ front, front <+: marker →
    front ≠ [] → front ≠ marker → ¬front <:+ text

theorem endsClean_of_not_mem {config : DeepSeekV4Config} {text : PyStr}
    (none : chr '<' ∉ text) : EndsClean config text := by
  intro marker _ head front goesOn nonempty _ suffix
  cases front with
  | nil => exact absurd rfl nonempty
  | cons char front =>
      rcases goesOn with ⟨rest, same⟩
      rw [← same] at head
      cases head
      exact none (suffix.subset List.mem_cons_self)

/-! ## The end of the text -/

theorem toolStart_head {marker : PyStr} (member : marker ∈ toolStartMarkers) :
    marker.head? = some (chr '<') ∨ ∃ inner ∈ toolStartMarkers,
      inner.head? = some (chr '<') ∧ marker = newlines ++ inner := by
  have all : ∀ marker ∈ toolStartMarkers, marker.head? = some (chr '<') ∨
      ∃ inner ∈ toolStartMarkers, inner.head? = some (chr '<') ∧ marker = newlines ++ inner := by
    decide
  exact all marker member

theorem toolStart_mem (enabled : config.context.toolsEnabled = true) {marker : PyStr}
    (member : marker ∈ toolStartMarkers) : marker ∈ markers config := by
  rw [markers, enabled, if_pos rfl]
  exact List.mem_append_right _ member

theorem getLast?_of_suffix {char : PyChar} {front : List PyChar} {text : PyStr}
    (ends : front ++ [char] <:+ text) : text.getLast? = some char := by
  rcases ends with ⟨before, same⟩
  rw [← same, ← List.append_assoc, List.getLast?_concat]

/-- The only start of a tool marker that such a text can end with is a line break. -/
theorem partial_pos_iff {text held : PyStr} (enabled : config.context.toolsEnabled = true)
    (ends : EndsClean config text)
    (isHeld : held = text.drop (text.length - longestPartial (markers config) text)) :
    0 < longestPartial toolStartMarkers held ↔ text.getLast? = some (chr '\n') := by
  have heldEnds : held <:+ text := isHeld ▸ List.drop_suffix _ _
  constructor
  · intro positive
    have some : ∃ marker ∈ toolStartMarkers, 0 < partialLength held marker := by
      by_contra none
      have each : ∀ marker ∈ toolStartMarkers, partialLength held marker ≤ 0 := by
        intro marker member
        exact Nat.le_of_not_lt fun some => none ⟨marker, member, some⟩
      exact absurd (longestPartial_le each) (by omega)
    rcases some with ⟨marker, member, size⟩
    have inside := partialLength_le held marker
    have goesOn := drop_partialLength_prefix held marker
    have proper : partialLength held marker < marker.length :=
      partialLength_lt ((markers_endFree config).nonempty marker
        (toolStart_mem config enabled member))
    have length : (held.drop (held.length - partialLength held marker)).length =
        partialLength held marker := by
      rw [List.length_drop]
      omega
    have suffix : held.drop (held.length - partialLength held marker) <:+ text :=
      (List.drop_suffix _ _).trans heldEnds
    generalize held.drop (held.length - partialLength held marker) = front at *
    have nonempty : front ≠ [] := by
      intro nil
      rw [nil, List.length_nil] at length
      omega
    have different : front ≠ marker := by
      intro same
      rw [same] at length
      omega
    rcases toolStart_head member with head | ⟨inner, innerMember, head, same⟩
    · exact absurd suffix
        (ends marker (toolStart_mem config enabled member) head front goesOn nonempty different)
    · subst same
      have line : newlines = [chr '\n', chr '\n'] := by decide
      rw [line] at goesOn
      match front, goesOn with
      | [], _ => exact absurd rfl nonempty
      | [first], goesOn =>
          rw [(List.cons_prefix_cons.mp goesOn).1] at suffix
          exact @getLast?_of_suffix _ [] _ suffix
      | [first, second], goesOn =>
          rw [(List.cons_prefix_cons.mp (List.cons_prefix_cons.mp goesOn).2).1] at suffix
          exact @getLast?_of_suffix _ [first] _ suffix
      | first :: second :: third :: more, goesOn =>
          have beyond : third :: more <+: inner :=
            (List.cons_prefix_cons.mp (List.cons_prefix_cons.mp goesOn).2).2
          have innerDifferent : third :: more ≠ inner := by
            intro same
            have innerLength : more.length + 1 = inner.length := congrArg List.length same
            have whole : (newlines ++ inner).length = 2 + inner.length := by
              rw [line]
              exact List.length_append
            have frontLength : more.length + 3 = partialLength held (newlines ++ inner) := length
            omega
          have innerSuffix : third :: more <:+ text :=
            List.IsSuffix.trans ⟨[first, second], rfl⟩ suffix
          exact absurd innerSuffix (ends inner (toolStart_mem config enabled innerMember) head _
            beyond (List.cons_ne_nil _ _) innerDifferent)
  · intro last
    have member : newlines ++ toolBlockOpen ∈ toolStartMarkers := by decide
    have atLeast : ∀ text : PyStr, text.getLast? = some (chr '\n') →
        1 ≤ partialLength text (newlines ++ toolBlockOpen) := by
      intro text last
      rcases List.getLast?_eq_some_iff.mp last with ⟨before, same⟩
      apply le_partialLength
      · rw [same, List.length_append, List.length_singleton]
        omega
      · decide
      · rw [same, List.length_append, List.length_singleton, Nat.add_sub_cancel, List.drop_left]
        exact ⟨_, rfl⟩
    have positive := (atLeast text last).trans
      (partialLength_le_longestPartial (toolStart_mem config enabled member))
    have heldLast : held.getLast? = some (chr '\n') := by
      have bound : longestPartial (markers config) text ≤ text.length :=
        longestPartial_le fun marker _ => partialLength_le text marker
      rw [isHeld, List.getLast?_drop, if_neg (by omega), last]
    exact (atLeast held heldLast).trans (partialLength_le_longestPartial member)

/-! ## The run -/

variable {config}

theorem Plain.missing {text : PyStr} (plain : Plain config text) :
    firstMatch text (markers config) = none := by
  rw [firstMatch_eq_none (markers_endFree config).nonempty]
  intro marker member position occurs
  exact plain marker member (occurs.isInfix.trans (List.drop_suffix position text).isInfix)

def heldFrom (config : DeepSeekV4Config) (text : PyStr) : Nat :=
  text.length - longestPartial (markers config) text

theorem Plain.turn {text : PyStr} (plain : Plain config text) :
    turn config (push (fresh config) text) = .ok ⟨false,
      delivered config (text.take (heldFrom config text)) (text.drop (heldFrom config text))
        (fresh config),
      deltas config (text.take (heldFrom config text)) (fresh config)⟩ :=
  turn_held config rfl plain.missing

theorem Plain.steady {text : PyStr} (plain : Plain config text) :
    Steady config (push (fresh config) text) := by
  apply @Draining.Always.of_turn _ _ _ _ (machine config)
    (fun reached => blockSteady reached = true) _ rfl
  intro ending turned progressed
  cases plain.turn.symm.trans turned
  cases progressed

theorem Plain.fed {text : PyStr} (plain : Plain config text) :
    feedChunks config [text] (fresh config) = .ok ⟨(),
      delivered config (text.take (heldFrom config text)) (text.drop (heldFrom config text))
        (fresh config),
      deltas config (text.take (heldFrom config text)) (fresh config)⟩ := by
  have drained : feed config text (fresh config) = .ok ⟨(),
      delivered config (text.take (heldFrom config text)) (text.drop (heldFrom config text))
        (fresh config),
      deltas config (text.take (heldFrom config text)) (fresh config)⟩ := by
    have rests := @Draining.drain_of_rest _ _ _ _ (machine config) _ _ plain.turn rfl
    rw [feed_eq config ⟨rfl, rfl⟩ (turn_empty config rfl)]
    exact rests
  rw [feedChunks, Emitting.bind_run_ok drained]
  exact congrArg Except.ok (congrArg (Ending.mk _ _) (List.append_nil _))

/-- What is emitted in the two pieces and completed merges to the whole. -/
theorem merge_pieces (before after : PyStr) :
    mergeDeltas (deltas config before (fresh config) ++
        (deltas config after (delivered config before after (fresh config)) ++
          ((delivered config after []
            (delivered config before after (fresh config))).channels.closeChannel
            config.request.requestId (fresh config).mode).2)) =
      wholeContent config (before ++ after) := by
  rw [← List.append_assoc]
  have same : mergeDeltas (deltas config before (fresh config) ++
      deltas config after (delivered config before after (fresh config)) ++
        ((delivered config after []
          (delivered config before after (fresh config))).channels.closeChannel
          config.request.requestId (fresh config).mode).2) =
      mergeDeltas (deltas config (before ++ after) (fresh config) ++
        ((delivered config (before ++ after) [] (fresh config)).channels.closeChannel
          config.request.requestId (fresh config).mode).2) := by
    rw [delivered_append config before after [] after]
    exact (deltaJoining.merge_append_congr (deltas_append config before after after) rfl).symm
  rw [same]
  generalize before ++ after = text
  have closed : (fresh config).channels = .closed := rfl
  rw [deltas, delivered, wholeContent, closed, mergeDeltas]
  cases text with
  | nil =>
      rw [ContentChannels.emitContent_nil, if_pos rfl]
      cases (fresh config).mode with
      | text => rfl
      | reasoning => rfl
  | cons char text =>
      rw [if_neg (List.cons_ne_nil _ _)]
      cases (fresh config).mode with
      | text =>
          simp [ContentChannels.emitContent, ContentChannels.closeChannel, ContentChannels.closed,
            Joining.merge, Joining.cons, deltaJoining, Joining.ofPieces, Joining.joinPieces,
            deltaPiece]
      | reasoning =>
          simp [ContentChannels.emitContent, ContentChannels.closeChannel, ContentChannels.closed,
            Joining.merge, Joining.cons, deltaJoining, Joining.ofPieces, Joining.joinPieces,
            deltaPiece]

/-- How much `finish` takes for the start of a tool block. -/
def cutAtEnd (config : DeepSeekV4Config) (text : PyStr) : Nat :=
  if config.context.toolsEnabled then longestPartial toolStartMarkers text else 0

/-- `finish` in content, without the opener of a block. -/
theorem finish_plain {parser : DeepSeekV4IncrementalParser} (unfinished : parser.finished = false)
    (outside : parser.inTool = false)
    (noBlock : ¬(config.context.toolsEnabled = true ∧ toolBlockOpen <+: parser.buffer)) :
    (cutAtEnd config parser.buffer = 0 →
      ∃ state, finish config parser = .ok ⟨parser.hadIncompleteTool, state,
        deltas config parser.buffer parser ++
          ((delivered config parser.buffer [] parser).channels.closeChannel
            config.request.requestId parser.mode).2⟩) ∧
    (0 < cutAtEnd config parser.buffer →
      ∃ state log, finish config parser = .ok ⟨true, state, log⟩) := by
  rw [cutAtEnd, finish, unfinished, if_neg Bool.false_ne_true]
  dsimp only
  rw [outside, if_neg Bool.false_ne_true, if_neg noBlock]
  generalize (if config.context.toolsEnabled = true then
    longestPartial toolStartMarkers parser.buffer else 0) = partialToolOpen
  constructor
  · intro none
    rw [if_neg (by omega)]
    exact ⟨_, rfl⟩
  · intro some
    rw [if_pos some]
    exact ⟨_, _, rfl⟩

theorem Plain.observed_iff {text : PyStr} (plain : Plain config text) :
    DeliveredWhole config [text] ↔ cutAtEnd config (text.drop (heldFrom config text)) = 0 := by
  have noBlock : ¬(config.context.toolsEnabled = true ∧
      toolBlockOpen <+: text.drop (heldFrom config text)) := by
    intro whole
    exact plain toolBlockOpen (toolStart_mem config whole.1 (by decide))
      (whole.2.isInfix.trans (List.drop_suffix _ _).isInfix)
  have finished := @finish_plain config (delivered config (text.take (heldFrom config text))
    (text.drop (heldFrom config text)) (fresh config)) rfl rfl noBlock
  have ran : run config [text] = _ := Emitting.bind_run_ok plain.fed
  rw [DeliveredWhole, ran]
  constructor
  · intro shown
    apply Nat.eq_zero_of_not_pos
    intro cut
    rcases finished.2 cut with ⟨state, log, same⟩
    rw [same] at shown
    have flag := congrArg (fun shown => shown.map Prod.snd) shown
    cases flag
  · intro none
    rcases finished.1 none with ⟨state, same⟩
    have merged := @merge_pieces config (text.take (heldFrom config text))
      (text.drop (heldFrom config text))
    rw [List.take_append_drop] at merged
    rw [same, List.flatten_cons, List.flatten_nil, List.append_nil, ← merged]
    rfl

/-- A text without markers and without the start of one at its end is delivered whole, in whatever
chunks, exactly when no tools are declared or it does not end with a line break. -/
theorem deliveredWhole_iff (chunks : List PyStr) (plain : Plain config chunks.flatten)
    (ends : EndsClean config chunks.flatten) :
    DeliveredWhole config chunks ↔
      (config.context.toolsEnabled = true → chunks.flatten.getLast? ≠ some (chr '\n')) := by
  have flat : [chunks.flatten].flatten = chunks.flatten := by
    rw [List.flatten_cons, List.flatten_nil, List.append_nil]
  have same : DeliveredWhole config chunks ↔ DeliveredWhole config [chunks.flatten] := by
    rw [DeliveredWhole, DeliveredWhole, observed_chunks config plain.steady, flat]
  rw [same, plain.observed_iff, cutAtEnd]
  cases enabled : config.context.toolsEnabled with
  | false =>
      rw [if_neg Bool.false_ne_true]
      exact ⟨fun _ broken => absurd broken Bool.false_ne_true, fun _ => rfl⟩
  | true =>
      have cut := partial_pos_iff config enabled ends rfl
      rw [if_pos rfl, ← Nat.le_zero, ← Nat.not_lt]
      exact ⟨fun none _ last => none (cut.mpr last), fun none some => none rfl (cut.mp some)⟩

theorem deliveredWhole_iff_sample :
    DeliveredWhole sampleConfig [py "a", py "b"] ↔
      (sampleConfig.context.toolsEnabled = true →
        [py "a", py "b"].flatten.getLast? ≠ some (chr '\n')) := by
  apply deliveredWhole_iff
  · have plain : ∀ marker ∈ markers sampleConfig, ¬marker <:+: [py "a", py "b"].flatten := by
      decide
    exact plain
  · exact endsClean_of_not_mem (by decide)

/-- With tools, a line break at the end is held back and taken for an incomplete call. -/
theorem lineBreak_not_delivered :
    Plain sampleConfig (py "a\n") ∧ EndsClean sampleConfig (py "a\n") ∧
      ¬DeliveredWhole sampleConfig [py "a\n"] := by
  have plain : ∀ marker ∈ markers sampleConfig, ¬marker <:+: py "a\n" := by
    decide
  refine ⟨plain, endsClean_of_not_mem (by decide), ?_⟩
  intro shown
  have flag : (observed (run sampleConfig [py "a\n"])).map (·.2) = .ok false := by
    rw [shown]
    rfl
  revert flag
  decide

end ExQServe.Model.DeepSeekV4.DeepSeekV4IncrementalParser
