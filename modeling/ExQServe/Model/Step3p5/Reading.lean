import ExQServe.Model.Glm5.Reading
import ExQServe.Model.Step3p5.Parser

/-! # What the Step 3.5 parser reads

A run of the parser shows what the GLM-5 parser would show on other symbols: a newline of the
reasoning channel that is held back appears later or not at all, and a newline of the text channel
may be left out. -/

namespace ExQServe.Model.Step3p5

open ExQServe.Search ExQServe.Emission ExQServe.Model.Glm5

/-- The symbols whose GLM-5 reading the parser shows, from a channel and the two flags on. -/
def heldFrom : Channel → Bool → Bool → List (Symbol PyChar) → List (Symbol PyChar)
  | .reasoning, true, _, [] => [.char newline]
  | _, _, _, [] => []
  | .reasoning, pending, trims, .char char :: symbols =>
      (if pending then [.char newline] else []) ++
        if char = newline then heldFrom .reasoning true trims symbols
        else .char char :: heldFrom .reasoning false trims symbols
  | .text, pending, trims, .char char :: symbols =>
      if trims = true ∧ char = newline then heldFrom .text pending false symbols
      else .char char :: heldFrom .text pending false symbols
  | .reasoning, pending, trims, .tag marker :: symbols =>
      .tag marker ::
        if marker = thinkClose then heldFrom .text false true symbols
        else heldFrom (Glm5IncrementalParser.behind marker) pending trims symbols
  | .text, pending, trims, .tag marker :: symbols =>
      .tag marker :: heldFrom (Glm5IncrementalParser.behind marker) pending trims symbols

namespace Step3p5IncrementalParser

variable (config : Glm5Config) {parser : Step3p5IncrementalParser}

def channel (parser : Step3p5IncrementalParser) : Channel := parser.base.channel

def flagged (channel : Channel) (marker : PyStr) (parser : Step3p5IncrementalParser) :
    Step3p5IncrementalParser :=
  if channel = .reasoning ∧ marker = thinkClose then
    { parser with pendingReasoningNewline := false, trimLeadingTextNewline := true }
  else parser

def reader : Reader Step3p5IncrementalParser GenerationEvent PyChar where
  emit parser text := emitContent config parser.channel text parser
  enter parser marker :=
    let (base, events) := (Glm5IncrementalParser.reader config).enter parser.base marker
    (flagged parser.channel marker { parser with base := base }, events)

/-! ## Pieces of content -/

/-- Content in two pieces ends in the same state. -/
theorem superEmit_append_fst (channel : Channel) (first second : PyStr) :
    (superEmit config channel (first ++ second) parser).1 =
      (superEmit config channel second (superEmit config channel first parser).1).1 := by
  simp only [superEmit, ContentChannels.emitContent_append_fst]

theorem superEmit_append_snd (channel : Channel) (first second : PyStr) :
    deltaJoining.merge (superEmit config channel (first ++ second) parser).2 =
      deltaJoining.merge ((superEmit config channel first parser).2 ++
        (superEmit config channel second (superEmit config channel first parser).1).2) :=
  ContentChannels.emitContent_append_snd first second

def splitNewline (text : PyStr) : PyStr × Bool :=
  if text.getLast? = some newline then (text.dropLast, true) else (text, false)

def pendingText (pending : Bool) : PyStr := if pending then [newline] else []

/-- What content lets the parser show in the reasoning channel, and whether a newline is held. -/
def shownReasoning (pending : Bool) (text : PyStr) : PyStr × Bool :=
  if text = [] then ([], pending) else splitNewline (pendingText pending ++ text)

def shownText (trims : Bool) (text : PyStr) : PyStr × Bool :=
  if text = [] then ([], trims)
  else (if trims = true ∧ text.head? = some newline then text.tail else text, false)

theorem splitNewline_append (front : PyStr) {text : PyStr} (nonempty : text ≠ []) :
    splitNewline (front ++ text) = (front ++ (splitNewline text).1, (splitNewline text).2) := by
  rcases List.exists_cons_of_ne_nil nonempty with ⟨char, rest, shape⟩
  have last : (front ++ text).getLast? = text.getLast? := by
    rw [shape]
    exact List.getLast?_append_cons front char rest
  rw [splitNewline, splitNewline, last]
  split
  · rw [List.dropLast_append_of_ne_nil nonempty]
  · rfl

theorem splitNewline_singleton (char : PyChar) :
    splitNewline [char] = if char = newline then ([], true) else ([char], false) := by
  simp [splitNewline]

theorem shownReasoning_cons (pending : Bool) (char : PyChar) (text : PyStr) :
    shownReasoning pending (char :: text) =
      ((shownReasoning pending [char]).1 ++
          (shownReasoning (shownReasoning pending [char]).2 text).1,
        (shownReasoning (shownReasoning pending [char]).2 text).2) := by
  cases text with
  | nil => simp [shownReasoning]
  | cons next text =>
      have alone : shownReasoning pending [char] = (pendingText pending ++ (splitNewline [char]).1,
          (splitNewline [char]).2) := splitNewline_append _ (List.cons_ne_nil _ _)
      have whole : shownReasoning pending (char :: next :: text) =
          (pendingText pending ++ (splitNewline (char :: next :: text)).1,
            (splitNewline (char :: next :: text)).2) :=
        splitNewline_append _ (List.cons_ne_nil _ _)
      rw [alone, whole, splitNewline_singleton]
      by_cases line : char = newline
      · simp [line, shownReasoning, pendingText]
      · have rest := splitNewline_append [char] (List.cons_ne_nil next text)
        rw [List.singleton_append] at rest
        simp [line, shownReasoning, pendingText, rest]

theorem shownText_cons (trims : Bool) (char : PyChar) (text : PyStr) :
    shownText trims (char :: text) =
      ((shownText trims [char]).1 ++ (shownText (shownText trims [char]).2 text).1,
        (shownText (shownText trims [char]).2 text).2) := by
  cases text with
  | nil => simp [shownText]
  | cons next text =>
      by_cases line : trims = true ∧ char = newline
      · simp [shownText, line]
      · simp [shownText, line]

/-- What content lets the parser show, and the two flags that it leaves. -/
def shown (channel : Channel) (pending trims : Bool) (text : PyStr) : PyStr × Bool × Bool :=
  match channel with
  | .reasoning => ((shownReasoning pending text).1, (shownReasoning pending text).2, trims)
  | .text => ((shownText trims text).1, pending, (shownText trims text).2)

theorem shown_cons (channel : Channel) (pending trims : Bool) (char : PyChar) (text : PyStr) :
    shown channel pending trims (char :: text) =
      ((shown channel pending trims [char]).1 ++
          (shown channel (shown channel pending trims [char]).2.1
            (shown channel pending trims [char]).2.2 text).1,
        (shown channel (shown channel pending trims [char]).2.1
          (shown channel pending trims [char]).2.2 text).2) := by
  cases channel with
  | reasoning => rw [shown, shownReasoning_cons]; rfl
  | text => rw [shown, shownText_cons]; rfl

def withFlags (flags : Bool × Bool) (parser : Step3p5IncrementalParser) :
    Step3p5IncrementalParser :=
  { parser with pendingReasoningNewline := flags.1, trimLeadingTextNewline := flags.2 }

def shows (channel : Channel) (text : PyStr) (parser : Step3p5IncrementalParser) :
    PyStr × Bool × Bool :=
  shown channel parser.pendingReasoningNewline parser.trimLeadingTextNewline text

theorem emitContent_eq (channel : Channel) (text : PyStr) (parser : Step3p5IncrementalParser) :
    emitContent config channel text parser = superEmit config channel
      (shows channel text parser).1 (withFlags (shows channel text parser).2 parser) := by
  rcases parser with ⟨base, pending, trims⟩
  by_cases empty : text = []
  · cases channel <;>
      simp [emitContent, empty, shows, shown, shownReasoning, shownText, superEmit, withFlags]
  · cases channel with
    | reasoning =>
        have front : withPending text ⟨base, pending, trims⟩ = pendingText pending ++ text := by
          cases pending <;> rfl
        simp only [emitContent, empty, if_false, emitReasoning, front, shows, shown,
          shownReasoning, splitNewline, withFlags]
        split <;> rfl
    | text =>
        simp only [emitContent, empty, if_false, emitText, shows, shown, shownText, withFlags]
        cases trims with
        | false => simp
        | true => simp

theorem heldFrom_char (channel : Channel) (pending trims : Bool) (char : PyChar)
    (symbols : List (Symbol PyChar)) :
    heldFrom channel pending trims (.char char :: symbols) =
      (shown channel pending trims [char]).1.map .char ++
        heldFrom channel (shown channel pending trims [char]).2.1
          (shown channel pending trims [char]).2.2 symbols := by
  cases channel with
  | reasoning =>
      rw [shown, shownReasoning, if_neg (List.cons_ne_nil _ _),
        splitNewline_append _ (List.cons_ne_nil _ _), splitNewline_singleton]
      by_cases line : char = newline
      · cases pending <;> simp [heldFrom, line, pendingText]
      · cases pending <;> simp [heldFrom, line, pendingText]
  | text =>
      by_cases line : trims = true ∧ char = newline
      · simp [heldFrom, shown, shownText, line]
      · simp [heldFrom, shown, shownText, line]

variable {config}

/-- What the rest of the content lets the parser show behind its first character. -/
def showsAfter (channel : Channel) (char : PyChar) (text : PyStr)
    (parser : Step3p5IncrementalParser) : PyStr × Bool × Bool :=
  shown channel (shows channel [char] parser).2.1 (shows channel [char] parser).2.2 text

def afterFirst (config : Glm5Config) (channel : Channel) (char : PyChar) (text : PyStr)
    (parser : Step3p5IncrementalParser) : Step3p5IncrementalParser × List GenerationEvent :=
  superEmit config channel (shows channel [char] parser).1
    (withFlags (showsAfter channel char text parser).2 parser)

theorem emitContent_cons (channel : Channel) (char : PyChar) (text : PyStr)
    (parser : Step3p5IncrementalParser) :
    emitContent config channel (char :: text) parser = superEmit config channel
      ((shows channel [char] parser).1 ++ (showsAfter channel char text parser).1)
        (withFlags (showsAfter channel char text parser).2 parser) := by
  rw [emitContent_eq, shows, shown_cons]
  rfl

theorem emitContent_rest (channel : Channel) (char : PyChar) (text : PyStr)
    (parser : Step3p5IncrementalParser) :
    emitContent config channel text (emitContent config channel [char] parser).1 =
      superEmit config channel (showsAfter channel char text parser).1
        (afterFirst config channel char text parser).1 := by
  rw [emitContent_eq config channel [char], emitContent_eq config channel text]
  rfl

theorem emitContent_first (channel : Channel) (char : PyChar) (text : PyStr)
    (parser : Step3p5IncrementalParser) :
    (emitContent config channel [char] parser).2 =
      (afterFirst config channel char text parser).2 := by
  rw [emitContent_eq config channel [char]]
  rfl

theorem emitContent_channel (channel : Channel) (text : PyStr)
    (parser : Step3p5IncrementalParser) :
    (emitContent config channel text parser).1.channel = parser.channel := by
  rw [emitContent_eq]
  rfl

theorem reader_smooth : (reader config).Smooth deltaJoining where
  emit_nil _ := rfl
  emit_cons parser char text := by
    simp only [reader, emitContent_channel]
    rw [emitContent_cons, emitContent_rest, superEmit_append_fst]
    rfl
  emit_log parser char text := by
    simp only [reader, emitContent_channel]
    rw [emitContent_cons, emitContent_rest, superEmit_append_snd,
      emitContent_first parser.channel char text]
    rfl

/-! ## Turns -/

def buffer (parser : Step3p5IncrementalParser) : PyStr := parser.base.buffer

def emptied (parser : Step3p5IncrementalParser) : Step3p5IncrementalParser :=
  withBuffer [] parser

theorem emitContent_emptied (channel : Channel) (text : PyStr)
    (parser : Step3p5IncrementalParser) :
    emitContent config channel text (emptied parser) =
      (emptied (emitContent config channel text parser).1,
        (emitContent config channel text parser).2) := by
  rw [emitContent_eq, emitContent_eq]
  rfl

theorem emitContent_reading {text : PyStr} (rest : PyStr) (reading : parser.base.Reading) :
    (withBuffer rest (emitContent config parser.channel text parser).1).base.Reading := by
  rw [emitContent_eq]
  exact ⟨reading.mode, reading.unfinished, reading.complete⟩

/-- Text that does not start with the closing marker is processed as by the GLM-5 parser. -/
theorem turn_plain {channel : Channel} (mode : parser.base.mode = .content channel)
    (other : ¬(channel = .reasoning ∧ thinkClose <+: parser.base.buffer)) :
    turn config parser = superProcessPlain config channel parser := by
  have open' : closingReasoning channel parser = false := by
    simpa [closingReasoning] using other
  rw [turn, mode]
  dsimp only
  rw [processPlain, open']
  rfl

theorem turn_emits {before after : PyStr} (reading : parser.base.Reading) (nonempty : before ≠ [])
    (split : parser.base.buffer = before ++ after)
    (found : (∃ marker, firstMatch parser.base.buffer (Glm5IncrementalParser.markers config) =
        some (before.length, marker)) ∨
      (firstMatch parser.base.buffer (Glm5IncrementalParser.markers config) = none ∧
        before.length = parser.base.buffer.length -
          longestPartial (Glm5IncrementalParser.markers config) parser.base.buffer))
    (other : ¬thinkClose <+: parser.base.buffer) :
    turn config parser = .ok ⟨true,
      withBuffer after (emitContent config parser.channel before parser).1,
      (emitContent config parser.channel before parser).2⟩ := by
  have front : parser.base.buffer.take before.length = before := by rw [split, List.take_left]
  have back : parser.base.buffer.drop before.length = after := by rw [split, List.drop_left]
  have positive := List.length_pos_iff.mpr nonempty
  rw [turn_plain reading.mode fun both => other both.2, superProcessPlain]
  rcases found with ⟨marker, found⟩ | ⟨missing, length⟩
  · rw [found]
    dsimp only
    rw [if_pos positive, front, back]
    rfl
  · rw [missing]
    dsimp only
    rw [← length, if_pos positive, front, back]
    rfl

theorem not_closing (plain : config.context.toolsEnabled = false) {before : PyStr}
    (nonempty : before ≠ [])
    (found : (∃ marker, firstMatch parser.base.buffer (Glm5IncrementalParser.markers config) =
        some (before.length, marker)) ∨
      (firstMatch parser.base.buffer (Glm5IncrementalParser.markers config) = none ∧
        before.length = parser.base.buffer.length -
          longestPartial (Glm5IncrementalParser.markers config) parser.base.buffer)) :
    ¬thinkClose <+: parser.base.buffer := by
  intro closes
  have member : thinkClose ∈ Glm5IncrementalParser.markers config :=
    (Glm5IncrementalParser.mem_markers plain).mpr (.inr rfl)
  rcases found with ⟨marker, found⟩ | ⟨missing, -⟩
  · have first := (firstAt_of_firstMatch found).first thinkClose member 0 closes
    exact nonempty (List.length_eq_zero_iff.mp (Nat.le_zero.mp first))
  · exact (firstMatch_eq_none (Glm5IncrementalParser.markers_endFree config).nonempty).mp missing
      thinkClose member 0 closes

theorem superProcessPlain_enters (plain : config.context.toolsEnabled = false) {marker : PyStr}
    (found : firstMatch parser.base.buffer (Glm5IncrementalParser.markers config) =
      some (0, marker)) :
    superProcessPlain config parser.channel parser = .ok ⟨true,
      { parser with base :=
        { ((Glm5IncrementalParser.reader config).enter parser.base marker).1 with
        buffer := parser.base.buffer.drop marker.length } },
      ((Glm5IncrementalParser.reader config).enter parser.base marker).2⟩ := by
  have known :=
    (Glm5IncrementalParser.mem_markers plain).mp (firstAt_of_firstMatch found).member
  rw [superProcessPlain, found]
  dsimp only
  rw [if_neg (Nat.lt_irrefl 0)]
  rcases known with known | known
  · rw [known]
    rfl
  · rw [known]
    rfl

theorem closing_iff (plain : config.context.toolsEnabled = false) {marker : PyStr}
    (found : firstMatch parser.base.buffer (Glm5IncrementalParser.markers config) =
      some (0, marker)) : thinkClose <+: parser.base.buffer ↔ marker = thinkClose := by
  have firstAt := firstAt_of_firstMatch found
  constructor
  · intro closes
    exact (Glm5IncrementalParser.markers_endFree config).unique firstAt.member
      ((Glm5IncrementalParser.mem_markers plain).mpr (.inr rfl)) firstAt.occurs closes
  · intro same
    exact same ▸ firstAt.occurs

theorem turn_enters (plain : config.context.toolsEnabled = false) {marker : PyStr}
    (reading : parser.base.Reading)
    (found : firstMatch parser.base.buffer (Glm5IncrementalParser.markers config) =
      some (0, marker)) :
    turn config parser = .ok ⟨true,
      withBuffer (parser.base.buffer.drop marker.length) ((reader config).enter parser marker).1,
      ((reader config).enter parser marker).2⟩ := by
  have closing := closing_iff plain found
  by_cases closes : parser.channel = .reasoning ∧ marker = thinkClose
  · have closed : closingReasoning parser.channel parser = true := by
      simp [closingReasoning, closes.1, closing.mpr closes.2]
    have entered := @superProcessPlain_enters config
      { parser with pendingReasoningNewline := false } plain marker found
    have same : channel { parser with pendingReasoningNewline := false } = parser.channel := rfl
    rw [same] at entered
    rw [turn, reading.mode]
    change processPlain config parser.channel parser = _
    rw [processPlain, closed, if_pos rfl, entered]
    simp only [reader, flagged, closes, and_self, if_true]
    rfl
  · have plainly : ¬(parser.channel = .reasoning ∧ thinkClose <+: parser.base.buffer) :=
      fun both => closes ⟨both.1, closing.mp both.2⟩
    rw [turn_plain reading.mode plainly]
    change superProcessPlain config parser.channel parser = _
    rw [superProcessPlain_enters plain found]
    simp only [reader, flagged, closes, if_false]
    rfl

theorem reader_enter_emptied (marker : PyStr) (parser : Step3p5IncrementalParser) :
    (reader config).enter (emptied parser) marker =
      (emptied ((reader config).enter parser marker).1,
        ((reader config).enter parser marker).2) := by
  by_cases closes : parser.channel = .reasoning ∧ marker = thinkClose
  · have same : (emptied parser).channel = .reasoning ∧ marker = thinkClose := closes
    simp only [reader, flagged, closes, same, and_self, if_true]
    rfl
  · have same : ¬((emptied parser).channel = .reasoning ∧ marker = thinkClose) := closes
    simp only [reader, flagged, closes, same, if_false]
    rfl

theorem tagged (plain : config.context.toolsEnabled = false) :
    Tagged (machine config) (Glm5IncrementalParser.markers config) (reader config)
      (fun parser => parser.base.Reading) buffer emptied where
  push parser more reading := ⟨⟨reading.mode, reading.unfinished, reading.complete⟩, rfl, rfl⟩
  emits parser before after reading nonempty split found := by
    have shown : (reader config).emit (emptied parser) before =
        (emptied (emitContent config parser.channel before parser).1,
          (emitContent config parser.channel before parser).2) :=
      emitContent_emptied parser.channel before parser
    rw [shown]
    exact ⟨_, turn_emits reading nonempty split found (not_closing plain nonempty found),
      emitContent_reading after reading, rfl, rfl⟩
  enters parser marker reading found := by
    rw [reader_enter_emptied]
    refine ⟨_, turn_enters plain reading found, ?_, rfl, rfl⟩
    simp only [reader, flagged]
    split
    · exact ⟨rfl, reading.unfinished, reading.complete⟩
    · exact ⟨rfl, reading.unfinished, reading.complete⟩
  rests parser reading missing rests := by
    have missing : firstMatch parser.base.buffer (Glm5IncrementalParser.markers config) = none :=
      missing
    have other : ¬thinkClose <+: parser.base.buffer :=
      (firstMatch_eq_none (Glm5IncrementalParser.markers_endFree config).nonempty).mp missing
        thinkClose ((Glm5IncrementalParser.mem_markers plain).mpr (.inr rfl)) 0
    have turned : turn config parser = .ok ⟨false, parser, []⟩ := by
      rw [turn_plain reading.mode fun both => other both.2, superProcessPlain, missing]
      dsimp only
      exact if_neg rests
    exact turned

/-! ## Runs -/

theorem feedChunks_eq (chunks : List PyStr) (reading : parser.base.Reading)
    (plain : config.context.toolsEnabled = false) (rested : Tagged.Rested
      (Glm5IncrementalParser.markers config) parser.base.buffer) :
    feedChunks config chunks parser = (machine config).feedAll chunks parser := by
  induction chunks generalizing parser with
  | nil => rfl
  | cons chunk chunks induction =>
      rcases (tagged plain).feed_reads reader_smooth (Glm5IncrementalParser.markers_endFree config)
        chunk reading with ⟨next, log, read, fed, readingThen, -, restedThen⟩
      have first : feed config chunk parser = .ok ⟨(), next, log⟩ := by
        rw [feed, reading.unfinished]
        exact fed
      rw [feedChunks, Draining.feedAll, Emitting.bind_run_ok first, Emitting.bind_run_ok fed,
        induction readingThen restedThen]

def finishEvents (config : Glm5Config) (parser : Step3p5IncrementalParser) :
    List GenerationEvent :=
  ((Glm5IncrementalParser.reader config).emit parser.base
      (if parser.channel = .reasoning ∧ parser.pendingReasoningNewline = true then [newline]
        else [])).2 ++
    (((Glm5IncrementalParser.reader config).emit parser.base
      (if parser.channel = .reasoning ∧ parser.pendingReasoningNewline = true then [newline]
        else [])).1.channels.closeChannel config.request.requestId parser.channel).2

theorem superFinish_read (reading : parser.base.Reading) (empty : parser.base.buffer = []) :
    ∃ next, superFinish config parser = .ok ⟨false, next,
      (parser.base.channels.closeChannel config.request.requestId parser.channel).2⟩ := by
  have nothing : ([thinkOpen, thinkClose].any fun marker => decide (([] : PyStr) <+: marker)) =
      true := by simp
  have silent : emitContent config parser.base.channel [] parser = (parser, []) := rfl
  rw [superFinish, reading.unfinished, reading.mode]
  simp only [Bool.false_eq_true, if_false, empty, nothing, Bool.true_or, if_true, silent,
    reading.complete, Bool.not_true, Bool.false_and, Bool.or_false, List.nil_append]
  exact ⟨_, rfl⟩

theorem finish_read (reading : parser.base.Reading) (empty : parser.base.buffer = []) :
    ∃ next, finish config parser = .ok ⟨false, next, finishEvents config parser⟩ := by
  have mode : parser.base.mode = .content .reasoning ↔ parser.channel = .reasoning := by
    rw [reading.mode]
    exact Glm5Mode.content.injEq _ _ ▸ Iff.rfl
  by_cases holds : parser.channel = .reasoning ∧ parser.pendingReasoningNewline = true
  · have readingThen : (superEmit config .reasoning [newline]
        { parser with pendingReasoningNewline := false }).1.base.Reading :=
      ⟨reading.mode, reading.unfinished, reading.complete⟩
    rcases @superFinish_read config _ readingThen empty with ⟨next, finished⟩
    refine ⟨next, ?_⟩
    rw [finish, if_pos ⟨mode.mpr holds.1, holds.2⟩]
    dsimp only
    have inside : parser.base.channel = .reasoning := holds.1
    have same : (superEmit config .reasoning [newline]
        { parser with pendingReasoningNewline := false }).1.channel = .reasoning := holds.1
    rw [finished, finishEvents, if_pos holds, same, holds.1]
    simp only [Glm5IncrementalParser.reader, inside]
    rfl
  · rcases @superFinish_read config parser reading empty with ⟨next, finished⟩
    refine ⟨next, ?_⟩
    rw [finish, if_neg fun both => holds ⟨mode.mp both.1, both.2⟩, finished, finishEvents,
      if_neg holds]
    rfl

def readAll (config : Glm5Config) (parser : Step3p5IncrementalParser)
    (symbols : List (Symbol PyChar)) : List GenerationEvent :=
  ((reader config).read parser symbols).2 ++
    finishEvents config ((reader config).read parser symbols).1

theorem run_reads_symbols (plain : config.context.toolsEnabled = false) (chunks : List PyStr)
    (whole : EndsWhole (Glm5IncrementalParser.markers config) chunks.flatten) :
    observed (run config chunks) = .ok (mergeDeltas (readAll config (fresh config)
      (symbolsOf (Glm5IncrementalParser.markers config) chunks.flatten)), false) := by
  have endFree := Glm5IncrementalParser.markers_endFree config
  have reading : (fresh config).base.Reading := ⟨rfl, rfl, rfl⟩
  rcases (tagged plain).feedAll_whole reader_smooth endFree chunks reading rfl whole
    with ⟨next, log, fed, readingThen, empty, shown, logged⟩
  rcases @finish_read config next readingThen empty with ⟨last, finished⟩
  have fedAll : feedChunks config chunks (fresh config) = .ok ⟨(), next, log⟩ := by
    rw [feedChunks_eq chunks reading plain (Tagged.rested_nil endFree.nonempty)]
    exact fed
  have ran : run config chunks = .ok ⟨false, last, log ++ finishEvents config next⟩ := by
    rw [run, Emitting.bind_run_ok fedAll]
    dsimp only
    rw [finished]
    rfl
  have same : emptied next = next := by
    rw [emptied, withBuffer, ← empty]
    rfl
  rw [ran]
  refine congrArg Except.ok (Prod.ext ?_ rfl)
  apply deltaJoining.merge_append_congr logged
  rw [← same, shown]
  rfl

/-! ## The GLM-5 reading -/

theorem readAll_chars (base : Glm5IncrementalParser) (text : PyStr)
    (symbols : List (Symbol PyChar)) :
    mergeDeltas (((Glm5IncrementalParser.reader config).emit base text).2 ++
        Glm5IncrementalParser.readAll config
          ((Glm5IncrementalParser.reader config).emit base text).1 symbols) =
      mergeDeltas (Glm5IncrementalParser.readAll config base (text.map .char ++ symbols)) := by
  rcases Glm5IncrementalParser.reader_smooth.read_chars base text with ⟨state, log⟩
  rw [Glm5IncrementalParser.readAll, Glm5IncrementalParser.readAll, Reader.read_append, state,
    List.append_assoc]
  exact deltaJoining.merge_append_congr log rfl

theorem readAll_char (char : PyChar) (symbols : List (Symbol PyChar)) :
    readAll config parser (.char char :: symbols) =
      (emitContent config parser.channel [char] parser).2 ++
        readAll config (emitContent config parser.channel [char] parser).1 symbols := by
  rw [readAll, Reader.read, List.append_assoc]
  rfl

theorem readAll_tag (marker : PyStr) (symbols : List (Symbol PyChar)) :
    readAll config parser (.tag marker :: symbols) =
      ((reader config).enter parser marker).2 ++
        readAll config ((reader config).enter parser marker).1 symbols := by
  rw [readAll, Reader.read, List.append_assoc]
  rfl

/-- The parser shows the GLM-5 reading of the symbols that are held back and left out as it
does. -/
theorem readAll_held (symbols : List (Symbol PyChar)) (parser : Step3p5IncrementalParser) :
    mergeDeltas (readAll config parser symbols) =
      mergeDeltas (Glm5IncrementalParser.readAll config parser.base
        (heldFrom parser.channel parser.pendingReasoningNewline parser.trimLeadingTextNewline
          symbols)) := by
  induction symbols generalizing parser with
  | nil =>
      have last : heldFrom parser.channel parser.pendingReasoningNewline
          parser.trimLeadingTextNewline [] = (if parser.channel = .reasoning ∧
            parser.pendingReasoningNewline = true then [newline] else []).map .char ++ [] := by
        cases parser.channel <;> cases parser.pendingReasoningNewline <;> rfl
      rw [last, ← readAll_chars]
      rfl
  | cons symbol symbols induction =>
      cases symbol with
      | char char =>
          rw [readAll_char, heldFrom_char, ← readAll_chars, emitContent_eq]
          apply deltaJoining.merge_append_congr rfl
          exact induction _
      | tag marker =>
          have behind : heldFrom parser.channel parser.pendingReasoningNewline
              parser.trimLeadingTextNewline (.tag marker :: symbols) =
                .tag marker :: heldFrom ((reader config).enter parser marker).1.channel
                  ((reader config).enter parser marker).1.pendingReasoningNewline
                  ((reader config).enter parser marker).1.trimLeadingTextNewline symbols := by
            by_cases closes : parser.channel = .reasoning ∧ marker = thinkClose
            · simp only [reader, flagged, closes, and_self, if_true, heldFrom]
              rfl
            · simp only [reader, flagged, closes, if_false]
              cases shape : parser.channel with
              | text => rfl
              | reasoning =>
                  rw [heldFrom, if_neg fun same => closes ⟨shape, same⟩]
                  rfl
          have base : ((reader config).enter parser marker).1.base =
              ((Glm5IncrementalParser.reader config).enter parser.base marker).1 := by
            simp only [reader, flagged]
            split <;> rfl
          have read : ∀ later, Glm5IncrementalParser.readAll config parser.base
              (.tag marker :: later) =
                ((reader config).enter parser marker).2 ++
                  Glm5IncrementalParser.readAll config
                    ((reader config).enter parser marker).1.base later := by
            intro later
            rw [Glm5IncrementalParser.readAll, Reader.read, List.append_assoc, base]
            rfl
          rw [readAll_tag, behind, read]
          exact deltaJoining.merge_append_congr rfl (induction _)

/-- The segments that a run of the parser shows. -/
theorem run_segments (plain : config.context.toolsEnabled = false)
    (starts : config.startInReasoning = true) (chunks : List PyStr)
    (whole : EndsWhole (Glm5IncrementalParser.markers config) chunks.flatten) :
    observed (run config chunks) = .ok
      ((segmentsFrom .reasoning [] (heldFrom .reasoning false false
        (symbolsOf (Glm5IncrementalParser.markers config) chunks.flatten))).flatMap
          (segmentEvents config.request.requestId), false) := by
  have mode : (Glm5IncrementalParser.fresh config).mode = .content .reasoning := by
    simp [Glm5IncrementalParser.fresh, starts]
  have channel : (fresh config).channel = .reasoning := channel_of_mode mode
  rw [run_reads_symbols plain chunks whole, readAll_held, channel, ← readAll_segments [] mode rfl]
  rfl

end Step3p5IncrementalParser

end ExQServe.Model.Step3p5
