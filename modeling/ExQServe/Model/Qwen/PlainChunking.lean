import ExQServe.Model.Qwen.Parser
import ExQServe.Model.Qwen.PlainTurns

/-! # Cutting unverified text into chunks

Feeding a text in pieces writes the same log as feeding it whole, once adjacent
deltas are merged. -/

namespace ExQServe.Model.Qwen

open ExQServe.Search ExQServe.Emission Emitting

variable {δ : Type} (config : ParserConfig δ)

/-! ## Draining -/

section Drain

variable {parser : QwenIncrementalParser δ}

open QwenIncrementalParser

theorem processBuffer_tool (isTool : parser.mode = .tool) :
    processBuffer config parser =
      (processTool config parser).map fun ending => ⟨false, ending.state, ending.log⟩ := by
  unfold processBuffer
  rw [read_bind, if_pos isTool]
  cases runs : processTool config parser with
  | error failure => rw [bind_run_error runs]; rfl
  | ok ending =>
      rw [bind_run_ok runs, pure_run]
      simp only [Except.map, Ending.after, List.append_nil]

theorem processBuffer_plain (notTool : parser.mode ≠ .tool) :
    processBuffer config parser = processPlain config false parser := by
  unfold processBuffer
  rw [read_bind, if_neg notTool]

theorem processBuffer_progresses :
    Progresses (fun parser => parser.buffer.length) (processBuffer (δ := δ) config) := by
  intro parser ending ended progressed
  by_cases isTool : parser.mode = .tool
  · rw [processBuffer_tool config isTool] at ended
    rcases map_eq_ok ended with ⟨middle, -, rfl⟩
    cases progressed
  · rw [processBuffer_plain config isTool] at ended
    cases found : firstToken parser.buffer plainMarkers with
    | none =>
        rw [processPlain_none config false found] at ended
        cases ended
        cases progressed
    | some match_ =>
        rcases processPlain_progress config found ended with rfl | ⟨-, shorter, -⟩
        · cases progressed
        · exact shorter

/-- Text in which no marker starts may be emitted before the turns over the rest. -/
theorem drainBuffer_clear {before after : PyStr} (notTool : parser.mode ≠ .tool)
    (buffer : parser.buffer = before ++ after) (clear : Clear plainMarkers before after) :
    Alike actionJoining (drainBuffer config parser)
      ((drainBuffer config ((parser.withContent before).dropBuffer before.length)).map
        (Ending.after (parser.contentActions config before))) := by
  have progresses := processBuffer_progresses (δ := δ) config
  have nonempty := plainMarkers_infixFree.nonempty
  have next : ((parser.withContent before).dropBuffer before.length).buffer = after := by
    unfold dropBuffer
    rw [withContent_buffer, buffer, List.drop_left]
  have nextMode : ((parser.withContent before).dropBuffer before.length).mode ≠ .tool := by
    rwa [show ((parser.withContent before).dropBuffer before.length).mode = parser.mode from
      withContent_mode before]
  have first := clear.firstToken_eq nonempty
  rw [← buffer] at first
  -- The piece that a turn emits from the whole buffer is emitted in two pieces.
  have pieces : ∀ (count : Nat), count ≤ after.length →
      (parser.withContent (before ++ after.take count)).dropBuffer (before.length + count) =
        (((parser.withContent before).dropBuffer before.length).withContent
          (after.take count)).dropBuffer count := by
    intro count bound
    rw [withContent_append, withContent_dropBuffer, dropBuffer_dropBuffer]
  have taken : ∀ count, parser.buffer.take (before.length + count) =
      before ++ after.take count := by
    intro count
    rw [buffer, List.take_length_add_append]
  cases found : firstToken after plainMarkers with
  | none =>
      rw [found, Option.map_none] at first
      have held := clear.longestPartial_eq nonempty
      rw [← buffer] at held
      have atMost : longestPartialMarkerSuffix after ≤ after.length :=
        longestPartial_le fun marker _ => partialLength_le after marker
      have safe : parser.buffer.length - longestPartialMarkerSuffix parser.buffer =
          before.length + (after.length - longestPartialMarkerSuffix after) := by
        unfold longestPartialMarkerSuffix at atMost ⊢
        rw [held, buffer, List.length_append]
        omega
      have whole := processPlain_none config false first
      rw [← processBuffer_plain config notTool, safe, taken,
        pieces _ (Nat.sub_le _ _)] at whole
      have rest := @processPlain_none _ config
        ((parser.withContent before).dropBuffer before.length) false (by rw [next]; exact found)
      rw [← processBuffer_plain config nextMode, next] at rest
      unfold drainBuffer
      rw [repeatWhile_of_rest progresses whole rfl, repeatWhile_of_rest progresses rest rfl]
      refine ⟨rfl, rfl, ?_⟩
      exact merge_contentActions_append config _ _
  | some match_ =>
      rcases match_ with ⟨position, marker⟩
      rw [found, Option.map_some] at first
      dsimp only at first
      by_cases empty : before = []
      · subst empty
        rw [List.nil_append] at buffer
        exact .of_eq (by
          rw [withContent_nil, contentActions_nil]
          show _ = Except.map _ (drainBuffer config parser)
          cases drainBuffer config parser <;> rfl)
      have long := List.length_pos_iff.mpr empty
      have whole := processPlain_before config false first (by omega)
      have bounds := marker_bounds first
      rw [buffer, List.length_append] at bounds
      rw [← processBuffer_plain config notTool, taken, pieces _ (by omega)] at whole
      unfold drainBuffer
      rw [repeatWhile_of_progress progresses whole rfl]
      by_cases later : 0 < position
      · have rest := @processPlain_before _ config
          ((parser.withContent before).dropBuffer before.length) _ _ false
          (by rw [next]; exact found) later
        rw [← processBuffer_plain config nextMode, next] at rest
        rw [repeatWhile_of_progress progresses rest rfl, Ending.map_after_after]
        exact (Alike.refl _).after (merge_contentActions_append config _ _)
      · have start : position = 0 := by omega
        subst start
        exact .of_eq (by simp only [List.take_zero, List.append_nil, withContent_nil]; rfl)

def drainTwice (more : PyStr) : Parsing δ Unit := do
  drainBuffer config
  change (extend more)
  drainBuffer config

theorem drainTwice_of_rest {more : PyStr}
    {ending : Ending (QwenIncrementalParser δ) ParserAction Bool}
    (stepped : processBuffer config parser = .ok ending) (rests : ending.value = false) :
    drainTwice config more parser =
      (drainBuffer config (ending.state.extend more)).map (Ending.after ending.log) := by
  have drained : drainBuffer config parser = .ok ⟨(), ending.state, ending.log⟩ :=
    repeatWhile_of_rest (processBuffer_progresses config) stepped rests
  unfold drainTwice
  rw [bind_run_ok drained, change_bind]

theorem drainTwice_of_progress {more : PyStr}
    {ending : Ending (QwenIncrementalParser δ) ParserAction Bool}
    (stepped : processBuffer config parser = .ok ending) (progressed : ending.value = true) :
    drainTwice config more parser =
      (drainTwice config more ending.state).map (Ending.after ending.log) := by
  have drained : drainBuffer config parser =
      (drainBuffer config ending.state).map (Ending.after ending.log) :=
    repeatWhile_of_progress (processBuffer_progresses config) stepped progressed
  unfold drainTwice
  cases rest : drainBuffer config ending.state with
  | error failure =>
      rw [rest] at drained
      rw [bind_run_error rest, bind_run_error drained]
      rfl
  | ok last =>
      rw [rest] at drained
      rw [bind_run_ok rest, bind_run_ok drained, Ending.map_after_after]
      rfl

theorem drainTwice_of_error {more : PyStr} {failure : ParserFailure}
    (stepped : processBuffer config parser = .error failure) :
    drainTwice config more parser = .error failure := by
  have drained : drainBuffer config parser = .error failure :=
    repeatWhile_of_error (processBuffer_progresses config) stepped
  unfold drainTwice
  rw [bind_run_error drained]

/-! ## More text is fed later -/

def DecodersHold (Lawful : δ → Prop) (parser : QwenIncrementalParser δ) : Prop :=
  (∀ active, parser.activeToolDecoder = some active → Lawful active) ∧
    ∀ shared, parser.sharedToolDecoder = some shared → Lawful shared

variable {Lawful : δ → Prop}
  (cutFree : ∀ decoder, config.sharedToolDecoderTemplate = some decoder →
    decoder.CutFree Lawful)

include cutFree

theorem Continues.hold {after : QwenIncrementalParser δ}
    (continues : Continues config parser after) (holds : DecodersHold Lawful parser) :
    DecodersHold Lawful after := by
  rcases continues.decoders with ⟨active, shared⟩ | ⟨decoder, fed, template, feeds, active, shared⟩
  · unfold DecodersHold
    rwa [active, shared]
  · have lawful := cutFree decoder template
    have opened : Lawful (parser.sharedToolDecoder.getD (decoder.fresh parser.callIndex)) := by
      cases isShared : parser.sharedToolDecoder with
      | none => exact lawful.fresh _
      | some decoder => exact holds.2 decoder isShared
    have kept := lawful.feed.preserves _ _ _ opened feeds
    constructor
    · intro found isActive
      rw [active] at isActive
      exact Option.some.inj isActive ▸ kept
    · intro found isShared
      rw [shared] at isShared
      cases isShared

theorem drainBuffer_extend_tool (more : PyStr) (isTool : parser.mode = .tool)
    (holds : DecodersHold Lawful parser) :
    drainBuffer config (parser.extend more) = drainTwice config more parser := by
  have progresses := processBuffer_progresses (δ := δ) config
  have stepped := processBuffer_tool config isTool
  have isToolMore : (parser.extend more).mode = .tool := isTool
  have steppedMore := processBuffer_tool config isToolMore
  by_cases inactive : config.sharedToolDecoderTemplate = none ∨ parser.activeToolDecoder = none
  · have inactiveMore : config.sharedToolDecoderTemplate = none ∨
        (parser.extend more).activeToolDecoder = none := inactive
    rw [processTool_inactive config inactive] at stepped
    rw [processTool_inactive config inactiveMore] at steppedMore
    rw [drainTwice_of_error config stepped]
    exact repeatWhile_of_error progresses steppedMore
  · push Not at inactive
    rcases Option.ne_none_iff_exists'.mp inactive.1 with ⟨decoder, template⟩
    rcases Option.ne_none_iff_exists'.mp inactive.2 with ⟨active, isActive⟩
    have isActiveMore : (parser.extend more).activeToolDecoder = some active := isActive
    have buffer : (parser.extend more).buffer = parser.buffer ++ more := rfl
    rw [processTool_run config template isActive] at stepped
    rw [processTool_run config template isActiveMore, buffer,
      (cutFree decoder template).feed.append active _ _ (holds.1 active isActive)] at steppedMore
    cases feeds : decoder.feed active parser.buffer with
    | error failure =>
        rw [feeds] at stepped steppedMore
        rw [drainTwice_of_error config stepped]
        exact repeatWhile_of_error progresses steppedMore
    | ok fed =>
        rw [feeds] at stepped steppedMore
        rw [drainTwice_of_rest config stepped rfl]
        have later := processBuffer_tool config
          (show ((parser.flushed fed).extend more).mode = .tool from isTool)
        rw [processTool_run config template (show
          ((parser.flushed fed).extend more).activeToolDecoder = some fed from rfl)] at later
        have rest : ((parser.flushed fed).extend more).buffer = more := rfl
        rw [rest] at later
        cases feedsMore : decoder.feed fed more with
        | error failure =>
            rw [feedsMore] at later
            have failed : processBuffer config (parser.extend more) = .error failure := by
              rw [steppedMore]
              show Except.map _ (Except.map _ (decoder.feed fed more)) = _
              rw [feedsMore]
              rfl
            unfold drainBuffer
            rw [repeatWhile_of_error progresses failed]
            dsimp only
            rw [repeatWhile_of_error progresses later]
            rfl
        | ok last =>
            rw [feedsMore] at later
            have ended : processBuffer config (parser.extend more) =
                .ok ⟨false, (parser.extend more).flushed last, []⟩ := by
              rw [steppedMore]
              show Except.map _ (Except.map _ (decoder.feed fed more)) = _
              rw [feedsMore]
              rfl
            unfold drainBuffer
            rw [repeatWhile_of_rest progresses ended rfl]
            dsimp only
            rw [repeatWhile_of_rest progresses later rfl]
            simp only [Except.map, Ending.after, flushed, extend, List.length_append,
              List.nil_append, Nat.add_assoc]

/-- Text that arrives once the buffer is drained might as well have stood in it. -/
theorem drainBuffer_extend (more : PyStr) (holds : DecodersHold Lawful parser) :
    Alike actionJoining (drainBuffer config (parser.extend more))
      (drainTwice config more parser) := by
  have progresses := processBuffer_progresses (δ := δ) config
  -- Induction on the length of the buffer, which every turn with progress decreases.
  induction size : parser.buffer.length using Nat.strongRecOn generalizing parser with
  | ind size induction =>
      by_cases isTool : parser.mode = .tool
      · exact .of_eq (drainBuffer_extend_tool config cutFree more isTool holds)
      have isToolMore : (parser.extend more).mode ≠ .tool := isTool
      have stepped := processBuffer_plain config isTool
      have steppedMore := processBuffer_plain config isToolMore
      cases found : firstToken parser.buffer plainMarkers with
      | none =>
          have clear := clear_of_none plainMarkers_infixFree.nonempty found
          rw [processPlain_none config false found] at stepped
          rw [drainTwice_of_rest config stepped rfl]
          have whole : (parser.extend more).buffer =
              parser.buffer.take
                (parser.buffer.length - longestPartial plainMarkers parser.buffer) ++
                (parser.buffer.drop
                  (parser.buffer.length - longestPartial plainMarkers parser.buffer) ++ more) := by
            rw [← List.append_assoc, List.take_append_drop]
            rfl
          have drained := drainBuffer_clear config isToolMore whole (clear.more more)
          rw [withContent_extend, contentActions_extend, List.length_take,
            Nat.min_eq_left (Nat.sub_le _ _), dropBuffer_extend
              (by rw [withContent_buffer]; exact Nat.sub_le _ _)] at drained
          exact drained
      | some match_ =>
          by_cases waits :
              processPlain config false parser = .ok ⟨false, parser.settleMarker, []⟩
          · rw [drainTwice_of_rest config (stepped.trans waits) rfl]
            show Alike _ _ (Except.map (Ending.after []) _)
            rw [Ending.map_after_nil]
            refine .of_eq (repeatWhile_congr progresses ?_)
            rw [steppedMore, processBuffer_plain config (show
              (parser.settleMarker.extend more).mode ≠ .tool from isTool),
              processPlain_again config more found waits]
          · have same := (processPlain_extend config more found).resolve_left waits
            cases ended : processPlain config false parser with
            | error failure =>
                rw [ended] at stepped same
                rw [drainTwice_of_error config stepped]
                exact .of_eq (repeatWhile_of_error progresses (steppedMore.trans same))
            | ok ending =>
                rw [ended] at stepped same
                rcases processPlain_progress config found ended with
                  rfl | ⟨progressed, shorter, continues⟩
                · exact absurd ended waits
                · rw [drainTwice_of_progress config stepped progressed]
                  unfold drainBuffer
                  rw [repeatWhile_of_progress progresses (steppedMore.trans same) progressed]
                  exact (induction _ (size ▸ shorter) (continues.hold config cutFree holds)
                    rfl).after rfl

/-- A parser between two calls of `feed`: its buffer is drained. -/
structure Waiting (config : ParserConfig δ) (Lawful : δ → Prop)
    (parser : QwenIncrementalParser δ) : Prop where
  unfinished : parser.finished = false
  noLiteral : parser.outsideToolLiteralPending = none
  decoders : DecodersHold Lawful parser
  drained : processBuffer config parser = .ok ⟨false, parser, []⟩

/-- A turn that makes no progress makes none again. -/
theorem processBuffer_rests (holds : DecodersHold Lawful parser)
    {ending : Ending (QwenIncrementalParser δ) ParserAction Bool}
    (stepped : processBuffer config parser = .ok ending) (rests : ending.value = false)
    (unfinished : parser.finished = false)
    (noLiteral : parser.outsideToolLiteralPending = none) :
    Waiting config Lawful ending.state := by
  by_cases isTool : parser.mode = .tool
  · rw [processBuffer_tool config isTool] at stepped
    rcases map_eq_ok stepped with ⟨middle, ended, rfl⟩
    rcases processTool_ok config ended with ⟨decoder, active, fed, template, isActive, feeds, rfl⟩
    have lawful := (cutFree decoder template).feed
    have kept := lawful.preserves _ _ _ (holds.1 active isActive) feeds
    refine ⟨unfinished, noLiteral, ⟨?_, holds.2⟩, ?_⟩
    · intro found isFed
      exact Option.some.inj isFed ▸ kept
    · rw [processBuffer_tool config (show (parser.flushed fed).mode = .tool from isTool),
        processTool_run config template (show (parser.flushed fed).activeToolDecoder = some fed
          from rfl)]
      have empty : (parser.flushed fed).buffer = [] := rfl
      rw [empty, lawful.nil fed kept]
      rfl
  · rw [processBuffer_plain config isTool] at stepped
    cases found : firstToken parser.buffer plainMarkers with
    | none =>
        rw [processPlain_none config false found] at stepped
        cases stepped
        have clear := clear_of_none plainMarkers_infixFree.nonempty found
        have rest := clear.firstToken_eq plainMarkers_infixFree.nonempty
        have held := clear.longestPartial_eq plainMarkers_infixFree.nonempty
        rw [List.take_append_drop] at rest held
        rw [found] at rest
        have missing := Option.map_eq_none_iff.mp rest.symm
        have atMost : longestPartial plainMarkers parser.buffer ≤ parser.buffer.length :=
          longestPartial_le fun marker _ => partialLength_le _ marker
        have buffer : ((parser.withContent (parser.buffer.take (parser.buffer.length -
            longestPartialMarkerSuffix parser.buffer))).dropBuffer
            (parser.buffer.length - longestPartialMarkerSuffix parser.buffer)).buffer =
            parser.buffer.drop
              (parser.buffer.length - longestPartial plainMarkers parser.buffer) := by
          unfold dropBuffer
          rw [withContent_buffer]
          rfl
        have mode : ((parser.withContent (parser.buffer.take (parser.buffer.length -
            longestPartialMarkerSuffix parser.buffer))).dropBuffer
            (parser.buffer.length - longestPartialMarkerSuffix parser.buffer)).mode =
            parser.mode := withContent_mode _
        have continues := Continues.withContent config parser (parser.buffer.take
          (parser.buffer.length - longestPartialMarkerSuffix parser.buffer))
          (parser.buffer.length - longestPartialMarkerSuffix parser.buffer)
        dsimp only
        generalize (parser.withContent _).dropBuffer _ = next at buffer mode continues ⊢
        refine ⟨continues.finished.trans unfinished, continues.literal.trans noLiteral,
          continues.hold config cutFree holds, ?_⟩
        rw [processBuffer_plain config (by rw [mode]; exact isTool)]
        refine processPlain_idle config false (by rw [buffer]; exact missing) ?_
        unfold longestPartialMarkerSuffix
        rw [buffer, ← held, List.length_drop]
        omega
    | some match_ =>
        rcases processPlain_progress config found stepped with rfl | ⟨progressed, -, -⟩
        · refine ⟨unfinished, noLiteral, holds, ?_⟩
          have again := processPlain_again config [] found stepped
          rw [extend_nil, extend_nil] at again
          rw [processBuffer_plain config (show parser.settleMarker.mode ≠ .tool from isTool)]
          exact again.trans stepped
        · rw [rests] at progressed
          cases progressed

theorem drainBuffer_waiting {ending : Ending (QwenIncrementalParser δ) ParserAction Unit}
    (unfinished : parser.finished = false) (noLiteral : parser.outsideToolLiteralPending = none)
    (holds : DecodersHold Lawful parser) (drained : drainBuffer config parser = .ok ending) :
    Waiting config Lawful ending.state := by
  refine @repeatWhile_ends _ _ _ _ _ _ (processBuffer_progresses config)
    (fun parser => parser.finished = false ∧ parser.outsideToolLiteralPending = none ∧
      DecodersHold Lawful parser) (Waiting config Lawful) ?_ _ _ ⟨unfinished, noLiteral, holds⟩
    drained
  rintro parser ending ⟨unfinished, noLiteral, holds⟩ stepped
  cases progressed : ending.value with
  | false =>
      exact processBuffer_rests config cutFree holds stepped progressed unfinished noLiteral
  | true =>
      have notTool : parser.mode ≠ .tool := by
        intro isTool
        rw [processBuffer_tool config isTool] at stepped
        rcases map_eq_ok stepped with ⟨middle, -, rfl⟩
        cases progressed
      rw [processBuffer_plain config notTool] at stepped
      cases found : firstToken parser.buffer plainMarkers with
      | none =>
          rw [processPlain_none config false found] at stepped
          cases stepped
          cases progressed
      | some match_ =>
          rcases processPlain_progress config found stepped with rfl | ⟨-, -, continues⟩
          · cases progressed
          · exact ⟨continues.finished.trans unfinished, continues.literal.trans noLiteral,
              continues.hold config cutFree holds⟩

/-! ## Runs -/

omit cutFree in
theorem feed_run (chunk : PyStr) (waiting : Waiting config Lawful parser) :
    feed config chunk parser = drainBuffer config (parser.extend chunk) := by
  unfold feed
  rw [read_bind]
  simp only [id, waiting.unfinished, Bool.false_eq_true, if_false, waiting.noLiteral]
  rw [change_bind]
  rfl

theorem feed_waiting (chunk : PyStr) (waiting : Waiting config Lawful parser)
    {ending : Ending (QwenIncrementalParser δ) ParserAction Unit}
    (fed : feed config chunk parser = .ok ending) : Waiting config Lawful ending.state := by
  rw [feed_run config chunk waiting] at fed
  have unfinished : (parser.extend chunk).finished = false := waiting.unfinished
  exact drainBuffer_waiting config cutFree unfinished waiting.noLiteral waiting.decoders fed

/-- Two chunks after another are as good as one. -/
theorem feed_append (first second : PyStr) (waiting : Waiting config Lawful parser) :
    Alike actionJoining (feed config (first ++ second) parser)
      ((do
        feed config first
        feed config second : Parsing δ Unit) parser) := by
  have holds : DecodersHold Lawful (parser.extend first) := waiting.decoders
  have later := drainBuffer_extend config cutFree second holds
  rw [extend_extend, ← feed_run config (first ++ second) waiting] at later
  have fed := feed_run config first waiting
  unfold drainTwice at later
  cases drained : drainBuffer config (parser.extend first) with
  | error failure =>
      rw [bind_run_error drained] at later
      rw [bind_run_error (fed.trans drained)]
      exact later
  | ok ending =>
      rw [bind_run_ok drained, change_bind] at later
      rw [bind_run_ok (fed.trans drained), feed_run config second
        (feed_waiting config cutFree first waiting (fed.trans drained))]
      exact later

theorem performFeeds (depth : Nat) (chunks : List PyStr) :
    ∀ {parser : QwenIncrementalParser δ}, Waiting config Lawful parser →
      Alike actionJoining (performCalls config depth (chunks.map .feed) parser)
        (feed config chunks.flatten parser) := by
  induction chunks with
  | nil =>
      intro parser waiting
      rw [List.flatten_nil, feed_run config [] waiting, extend_nil]
      exact .of_eq (repeatWhile_of_rest (processBuffer_progresses config) waiting.drained
        rfl).symm
  | cons chunk chunks induction =>
      intro parser waiting
      refine .trans ?_ (feed_append config cutFree chunk chunks.flatten waiting).symm
      refine .bind (.refl _) fun _ reached fed => ?_
      rcases fed with ⟨log, fed⟩
      exact induction (feed_waiting config cutFree chunk waiting fed)

omit cutFree in
theorem fresh_waiting
    (lawful : ∀ decoder, config.sharedToolDecoderTemplate = some decoder →
      decoder.CutFree Lawful) : Waiting config Lawful (.fresh config) := by
  have notTool : (QwenIncrementalParser.fresh config).mode ≠ .tool := by
    unfold fresh
    dsimp only
    split <;> simp
  have missing : firstToken (QwenIncrementalParser.fresh config).buffer plainMarkers = none :=
    show firstToken [] plainMarkers = none by decide
  refine ⟨rfl, rfl, ⟨?_, ?_⟩, ?_⟩
  · intro active isActive
    cases isActive
  · intro shared isShared
    rcases Option.map_eq_some_iff.mp isShared with ⟨decoder, template, rfl⟩
    exact (lawful decoder template).fresh 0
  · rw [processBuffer_plain config notTool]
    exact processPlain_none config false missing

/-- A run over the chunks of a text ends as the run over the text, with the same log up
to the merging of deltas. -/
theorem run_feeds (depth turns : Nat) (chunks : List PyStr) :
    Alike actionJoining (run config depth turns (chunks.map .feed))
      (run config depth turns [.feed chunks.flatten]) := by
  have waiting := fresh_waiting config cutFree
  have single : performCalls config depth [.feed chunks.flatten] (.fresh config) =
      feed config chunks.flatten (.fresh config) := by
    show (feed config chunks.flatten >>= fun _ => pure ()) _ = _
    rw [bind_pure_unit]
  refine .bind ?_ fun _ reached _ => .refl _
  rw [single]
  exact performFeeds config cutFree depth chunks waiting

end Drain

end ExQServe.Model.Qwen
