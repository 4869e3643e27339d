import ExQServe.Model.DeepSeekV4.Chunking

/-! # Scans that are carried on

The parser carries the scan of a direct payload from one search for the close of a block to the
next. A run does not show it, so what holds when each search scans anew holds of the source. -/

namespace ExQServe.Model.DeepSeekV4.DeepSeekV4IncrementalParser

open ExQServe.Search ExQServe.Emission

variable (config : DeepSeekV4Config) {parser : DeepSeekV4IncrementalParser}

def forget (parser : DeepSeekV4IncrementalParser) : DeepSeekV4IncrementalParser :=
  { parser with directJsonScanState := .initial }

def rescanning : DeepSeekV4Config := { config with resumes := false }

/-- The scan is one of the buffer, and outside tools there is none. -/
structure Scanning (parser : DeepSeekV4IncrementalParser) : Prop where
  unfinished : parser.finished = false
  coherent : parser.directJsonScanState.Coherent parser.buffer
  outside : parser.inTool = false → parser.directJsonScanState = .initial

theorem Resting.scanning (resting : Resting parser) : Scanning parser where
  unfinished := resting.unfinished
  coherent := resting.forgotten ▸ DirectJsonScanState.initial_coherent _
  outside _ := resting.forgotten

theorem Resting.forget_eq (resting : Resting parser) : forget parser = parser := by
  rw [forget, ← resting.forgotten]

/-- A turn in content leaves no scan. -/
theorem turn_outside {ending : Ending DeepSeekV4IncrementalParser GenerationEvent Bool}
    (outside : parser.inTool = false) (resting : Resting parser)
    (turned : turn config parser = .ok ending) : Resting ending.state := by
  by_cases empty : parser.buffer = []
  · cases (turn_empty config empty).symm.trans turned
    exact resting
  · cases found : firstMatch parser.buffer (markers config) with
    | some best => exact (turn_found config empty outside resting found turned).2
    | none =>
        cases (turn_held config outside found).symm.trans turned
        exact ⟨resting.unfinished, resting.forgotten⟩

/-- What is found in a tool block with the scan carried on is what is found anew. -/
theorem processTool_resumes (carries : config.resumes = true) (scanning : Scanning parser) :
    (∃ state, DirectJsonScanState.Coherent state parser.buffer ∧
      processTool config parser =
        .ok ⟨false, { parser with directJsonScanState := state }, []⟩ ∧
      processTool (rescanning config) (forget parser) = .ok ⟨false, forget parser, []⟩) ∨
    ∃ closeAt, processTool config parser =
        (emitToolBlock config (blockOf closeAt parser) (shut closeAt parser)).map
          (fun ending => ⟨true, ending.state, ending.log⟩) ∧
      processTool (rescanning config) (forget parser) =
        (emitToolBlock config (blockOf closeAt parser) (shut closeAt parser)).map
          (fun ending => ⟨true, ending.state, ending.log⟩) := by
  rcases @findDsmlCloseFrom_some parser.buffer toolBlockClose (parser.buffer.length + 1) 0 _
    scanning.coherent with ⟨state, resumed, coherent⟩
  rw [← findDsmlClose, ← findDsmlClose] at resumed
  cases found : (findDsmlClose parser.buffer toolBlockClose 0 none).1 with
  | none =>
      left
      have processed : processTool config parser =
          .ok ⟨false, { parser with directJsonScanState := state }, []⟩ := by
        rw [processTool, carries, if_pos rfl]
        dsimp only
        rw [resumed, found]
        rfl
      have foundThen : (findDsmlClose (forget parser).buffer toolBlockClose 0 none).1 = none :=
        found
      exact ⟨state, coherent, processed, processTool_none (rescanning config) rfl foundThen⟩
  | some closeAt =>
      right
      have processed : processTool config parser =
          (emitToolBlock config (blockOf closeAt parser) (shut closeAt parser)).map
            (fun ending => ⟨true, ending.state, ending.log⟩) := by
        rw [processTool, carries, if_pos rfl]
        dsimp only
        rw [resumed, found]
        rfl
      have foundThen : (findDsmlClose (forget parser).buffer toolBlockClose 0 none).1 =
        some closeAt := found
      exact ⟨closeAt, processed, processTool_some (rescanning config) rfl foundThen⟩

theorem emitted_resting {block : PyStr} {closeAt : Nat}
    {ending : Ending DeepSeekV4IncrementalParser GenerationEvent Unit} (scanning : Scanning parser)
    (emitted : emitToolBlock config block (shut closeAt parser) = .ok ending) :
    Resting ending.state := by
  have frame := emitToolBlock_frame config emitted
  exact ⟨frame.2.2.2.1.trans scanning.unfinished, frame.2.2.2.2⟩

theorem turn_forget (carries : config.resumes = true) (scanning : Scanning parser) :
    turn (rescanning config) (forget parser) =
      (turn config parser).map (Ending.relocate forget) := by
  by_cases empty : parser.buffer = []
  · rw [turn_empty config empty]
    exact turn_empty (rescanning config) empty
  · cases inside : parser.inTool with
    | false =>
        have resting : Resting parser := ⟨scanning.unfinished, scanning.outside inside⟩
        have same : turn (rescanning config) parser = turn config parser := by
          rw [turn_plain config empty inside, turn_plain (rescanning config) empty inside]
          rfl
        rw [resting.forget_eq, same]
        cases turned : turn config parser with
        | error failure => rfl
        | ok ending =>
            have stays := (turn_outside config inside resting turned).forget_eq
            exact congrArg Except.ok (congrArg
              (fun state => Ending.mk ending.value state ending.log) stays.symm)
    | true =>
        rw [turn_tool config empty inside,
          @turn_tool (rescanning config) (forget parser) empty inside]
        rcases processTool_resumes config carries scanning with
          ⟨state, -, same, same'⟩ | ⟨closeAt, same, same'⟩
        · rw [same, same']
          rfl
        · rw [same, same']
          cases emitted : emitToolBlock config (blockOf closeAt parser) (shut closeAt parser) with
          | error failure => rfl
          | ok ending =>
              have stays := (emitted_resting config scanning emitted).forget_eq
              exact congrArg Except.ok (congrArg
                (fun state => Ending.mk true state ending.log) stays.symm)

theorem Scanning.turn {ending : Ending DeepSeekV4IncrementalParser GenerationEvent Bool}
    (carries : config.resumes = true) (scanning : Scanning parser)
    (turned : turn config parser = .ok ending) : Scanning ending.state := by
  by_cases empty : parser.buffer = []
  · cases (turn_empty config empty).symm.trans turned
    exact scanning
  · cases inside : parser.inTool with
    | false =>
        exact (turn_outside config inside
          ⟨scanning.unfinished, scanning.outside inside⟩ turned).scanning
    | true =>
        rw [turn_tool config empty inside] at turned
        rcases processTool_resumes config carries scanning with
          ⟨state, coherent, same, -⟩ | ⟨closeAt, same, -⟩
        · cases same.symm.trans turned
          exact ⟨scanning.unfinished, coherent,
            fun outside => absurd inside (by rw [outside]; decide)⟩
        · rw [same] at turned
          rcases map_eq_ok turned with ⟨last, emitted, equal⟩
          rw [← equal]
          exact (emitted_resting config scanning emitted).scanning

/-- Carrying the scan on shows only in the scan. -/
theorem simulates (carries : config.resumes = true) :
    (machine config).Simulates (machine (rescanning config)) Scanning forget where
  push _ more scanning :=
    ⟨⟨scanning.unfinished, scanning.coherent.more more, scanning.outside⟩, rfl⟩
  turn _ scanning := turn_forget config carries scanning
  good_turn _ _ scanning turned := scanning.turn config carries turned

/-! ## Runs -/

theorem feed_forget (carries : config.resumes = true) (scanning : Scanning parser)
    (chunk : PyStr) :
    feed (rescanning config) chunk (forget parser) =
        (feed config chunk parser).map (Ending.relocate forget) ∧
      ∀ ending, feed config chunk parser = .ok ending → Scanning ending.state := by
  have unfinished := scanning.unfinished
  have simulation := simulates config carries
  have unfinishedThen : (forget parser).finished = false := unfinished
  rw [feed, feed, unfinished, unfinishedThen, if_neg Bool.false_ne_true, if_neg Bool.false_ne_true]
  by_cases empty : chunk = []
  · rw [if_pos empty, if_pos empty]
    refine ⟨rfl, ?_⟩
    intro ending same
    cases same
    exact scanning
  · rw [if_neg empty, if_neg empty, Draining.feed, Draining.feed]
    rcases simulation.push parser chunk scanning with ⟨scanningThen, pushed⟩
    rw [← pushed]
    exact ⟨simulation.drain scanningThen, fun ending drained =>
      simulation.drain_good scanningThen drained⟩

theorem feedChunks_forget (carries : config.resumes = true) (scanning : Scanning parser)
    (chunks : List PyStr) :
    feedChunks (rescanning config) chunks (forget parser) =
        (feedChunks config chunks parser).map (Ending.relocate forget) ∧
      ∀ ending, feedChunks config chunks parser = .ok ending → Scanning ending.state := by
  induction chunks generalizing parser with
  | nil =>
      refine ⟨rfl, ?_⟩
      intro ending same
      cases same
      exact scanning
  | cons chunk chunks induction =>
      rcases feed_forget config carries scanning chunk with ⟨same, scanningThen⟩
      rw [feedChunks, feedChunks]
      cases fed : feed config chunk parser with
      | error failure =>
          rw [fed] at same
          rw [Emitting.bind_run_error fed, Emitting.bind_run_error same]
          refine ⟨rfl, ?_⟩
          intro ending broken
          cases broken
      | ok middle =>
          rw [fed] at same
          rw [Emitting.bind_run_ok fed, Emitting.bind_run_ok same]
          rcases induction (scanningThen middle fed) with ⟨later, last⟩
          have moved : (Ending.relocate forget middle).state = forget middle.state := rfl
          rw [moved, later]
          cases rest : feedChunks config chunks middle.state with
          | error failure =>
              refine ⟨rfl, ?_⟩
              intro ending broken
              cases broken
          | ok ending =>
              refine ⟨rfl, ?_⟩
              intro whole equal
              cases equal
              exact last ending rest

theorem emitToolBlock_forget (block : PyStr) :
    emitToolBlock (rescanning config) block (forget parser) =
      (emitToolBlock config block parser).map (Ending.relocate forget) := by
  have declared : declaredCalls (rescanning config) block = declaredCalls config block := rfl
  rw [emitToolBlock, emitToolBlock, forget, declared]
  dsimp only
  cases declaredCalls config block with
  | none => rfl
  | some calls =>
      have published : publishCalls (rescanning config).request parser.callIndex calls =
          publishCalls config.request parser.callIndex calls := rfl
      dsimp only
      rw [published]
      cases publishCalls config.request parser.callIndex calls with
      | error failure => rfl
      | ok events => rfl

theorem finish_forget :
    finish (rescanning config) (forget parser) =
      (finish config parser).map (Ending.relocate forget) := by
  have finished : (forget parser).finished = parser.finished := rfl
  rw [finish, finish, finished]
  by_cases done : parser.finished = true
  · rw [if_pos done, if_pos done]
    rfl
  · rw [if_neg done, if_neg done, forget]
    dsimp only
    cases inside : parser.inTool with
    | true =>
        rw [if_pos rfl, if_pos rfl]
        cases bare : parser.bareTool with
        | true =>
            rw [if_pos rfl, if_pos rfl]
            have same := @emitToolBlock_forget config { parser with
              finished := true, buffer := [], inTool := false, bareTool := false }
              (bareBlock parser.buffer)
            rw [forget] at same
            dsimp only at same
            rw [same]
            cases emitToolBlock config (bareBlock parser.buffer) { parser with
                finished := true, buffer := [], inTool := false, bareTool := false } with
            | error failure => rfl
            | ok ending => rfl
        | false => rfl
    | false =>
        rw [if_neg Bool.false_ne_true, if_neg Bool.false_ne_true]
        by_cases whole : config.context.toolsEnabled ∧ toolBlockOpen <+: parser.buffer
        · have whole' : (rescanning config).context.toolsEnabled ∧
            toolBlockOpen <+: parser.buffer :=
            whole
          rw [if_pos whole, if_pos whole']
          rfl
        · have whole' : ¬((rescanning config).context.toolsEnabled ∧
              toolBlockOpen <+: parser.buffer) := whole
          have enabled : (rescanning config).context.toolsEnabled =
            config.context.toolsEnabled := rfl
          rw [if_neg whole, if_neg whole', enabled]
          generalize (if config.context.toolsEnabled = true then
            longestPartial toolStartMarkers parser.buffer else 0) = partialToolOpen
          by_cases cut : 0 < partialToolOpen
          · rw [if_pos cut, if_pos cut]
            rfl
          · rw [if_neg cut, if_neg cut]
            rfl

theorem fresh_scanning : Scanning (fresh config) :=
  ⟨rfl, DirectJsonScanState.initial_coherent _, fun _ => rfl⟩

theorem run_forget (carries : config.resumes = true) (chunks : List PyStr) :
    run (rescanning config) chunks = (run config chunks).map (Ending.relocate forget) := by
  rcases feedChunks_forget config carries (fresh_scanning config) chunks with ⟨same, -⟩
  have start : fresh (rescanning config) = forget (fresh config) := rfl
  rw [run, run, start]
  cases fed : feedChunks config chunks (fresh config) with
  | error failure =>
      rw [fed] at same
      rw [Emitting.bind_run_error fed, Emitting.bind_run_error same]
      rfl
  | ok middle =>
      rw [fed] at same
      rw [Emitting.bind_run_ok fed, Emitting.bind_run_ok same]
      have moved : (Ending.relocate forget middle).state = forget middle.state := rfl
      rw [moved, finish_forget]
      cases finish config middle.state with
      | error failure => rfl
      | ok ending => rfl

/-- A run shows the same when each search scans anew. -/
theorem observed_rescanning (chunks : List PyStr) :
    observed (run config chunks) = observed (run (rescanning config) chunks) := by
  cases carries : config.resumes with
  | true =>
      rw [run_forget config carries]
      cases run config chunks with
      | error failure => rfl
      | ok ending => rfl
  | false =>
      have same : rescanning config = config := by
        rw [rescanning, ← carries]
      rw [same]

theorem steady_rescanning {text : PyStr} (isSteady : Steady config (push (fresh config) text)) :
    Steady (rescanning config) (push (fresh config) text) := by
  cases carries : config.resumes with
  | true =>
      have simulation := simulates config carries
      exact @Draining.Simulates.always _ _ _ _ _ _ _ _ simulation
        (fun reached => blockSteady reached = true) (fun reached => blockSteady reached = true)
        (fun _ holds => holds) _ (simulation.push _ text (fresh_scanning config)).1 isSteady
  | false =>
      have same : rescanning config = config := by
        rw [rescanning, ← carries]
      rw [same]
      exact isSteady

/-! ## Chunks -/

theorem feed_eq (resting : Resting parser)
    (rests : turn config parser = .ok ⟨false, parser, []⟩) (chunk : PyStr) :
    feed config chunk parser = (machine config).feed chunk parser := by
  rw [feed, resting.unfinished, if_neg Bool.false_ne_true]
  by_cases empty : chunk = []
  · have rests' : (machine config).turn parser = .ok ⟨false, parser, []⟩ := rests
    rw [if_pos empty, empty, Draining.feed, (machine config).push_nil,
      Draining.drain_of_rest rests' rfl]
  · rw [if_neg empty]

theorem feedChunks_eq (anew : config.resumes = false) (resting : Resting parser)
    (rests : turn config parser = .ok ⟨false, parser, []⟩) (chunks : List PyStr) :
    feedChunks config chunks parser = (machine config).feedAll chunks parser := by
  induction chunks generalizing parser with
  | nil => rfl
  | cons chunk chunks induction =>
      have first := feed_eq config resting rests chunk
      rw [feedChunks, Draining.feedAll]
      cases fed : (machine config).feed chunk parser with
      | error failure =>
          rw [fed] at first
          rw [Emitting.bind_run_error first, Emitting.bind_run_error fed]
      | ok ending =>
          rw [fed] at first
          rcases (cutFree config anew).drain_good
            (⟨resting.unfinished, resting.forgotten⟩ : Resting (push parser chunk)) fed with
            ⟨restingThen, restsThen⟩
          rw [Emitting.bind_run_ok first, Emitting.bind_run_ok fed,
            induction restingThen restsThen]

theorem run_anew (anew : config.resumes = false) {chunks : List PyStr}
    (isSteady : Steady config (push (fresh config) chunks.flatten)) :
    Alike deltaJoining (run config chunks) (run config [chunks.flatten]) := by
  have resting : Resting (fresh config) := ⟨rfl, rfl⟩
  have rests : turn config (fresh config) = .ok ⟨false, fresh config, []⟩ :=
    turn_empty config rfl
  have shown : ∀ pieces, run config pieces =
      ((machine config).feedAll pieces >>= fun _ => finish config) (fresh config) := by
    intro pieces
    rw [run, Emitting.bind_run, Emitting.bind_run, Emitting.andThen, Emitting.andThen,
      feedChunks_eq config anew resting rests]
  rw [shown, shown]
  exact (cutFree config anew).feedAll_bind _ chunks resting isSteady rests

/-- The chunks do not show where the run is steady. -/
theorem observed_chunks {chunks : List PyStr}
    (isSteady : Steady config (push (fresh config) chunks.flatten)) :
    observed (run config chunks) = observed (run config [chunks.flatten]) := by
  rw [observed_rescanning config chunks, observed_rescanning config [chunks.flatten]]
  exact observed_of_alike (run_anew (rescanning config) rfl (steady_rescanning config isSteady))

/-- Neither the scan that is carried on nor, in a steady run, the chunks show. -/
theorem chunking :
    (∀ chunks, observed (run config chunks) = observed (run (rescanning config) chunks)) ∧
      ∀ text, Steady config (push (fresh config) text) → ∀ chunks, chunks.flatten = text →
        observed (run config chunks) = observed (run config [text]) :=
  ⟨observed_rescanning config, fun _ isSteady _ same =>
    same ▸ observed_chunks config (same ▸ isSteady)⟩

/-! ### Runs on given texts -/

def sampleConfig : DeepSeekV4Config where
  request := ⟨py "r", py "deepseek-v4", fun _ => [],
    nonBlank_iff.mpr ⟨chr 'r', by decide, by decide⟩⟩
  startInReasoning := true
  context := ⟨true, (Dict.empty.set (py "lookup") [py "query"])⟩
  resumes := true
  tagged := rfl

def namelessBlock : PyStr := toolBlockOpen ++ invokeOpenPrefix ++ toolBlockClose

/-- The chunks of a text whose block is not steady show. -/
theorem chunks_show :
    observed (run sampleConfig [namelessBlock, py "\">\x7b"]) ≠
      observed (run sampleConfig [namelessBlock ++ py "\">\x7b"]) := by
  intro same
  have counts : (observed (run sampleConfig [namelessBlock, py "\">\x7b"])).toOption.map
      (fun shown => shown.1.length) =
        (observed (run sampleConfig [namelessBlock ++ py "\">\x7b"])).toOption.map
          (fun shown => shown.1.length) := by
    rw [same]
  revert counts
  decide +kernel

def sampleBlock : PyStr :=
  py "a" ++ toolBlockOpen ++ invokeOpenPrefix ++ py "lookup\">\x7b\x7d" ++ invokeClose ++
    toolBlockClose

theorem chunking_sample :
    observed (run sampleConfig [sampleBlock.take 30, sampleBlock.drop 30]) =
      observed (run sampleConfig [sampleBlock]) := by
  apply (chunking sampleConfig).2 sampleBlock
  · have checked : (machine sampleConfig).checkTurns blockSteady 5
        (push (fresh sampleConfig) sampleBlock) = true := by
      decide +kernel
    exact Draining.always_of_checkTurns _ checked
  · rw [List.flatten_cons, List.flatten_cons, List.flatten_nil, List.append_nil,
      List.take_append_drop]

end ExQServe.Model.DeepSeekV4.DeepSeekV4IncrementalParser
