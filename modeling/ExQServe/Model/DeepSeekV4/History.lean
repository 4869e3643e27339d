import ExQServe.Agent.JsonCanonical
import ExQServe.Model.DeepSeekV4.Encoding
import ExQServe.Model.DeepSeekV4.Plain

/-! # Calls of the history in the output

The text that the prompt writes for calls is read as these calls when it comes as output. -/

namespace ExQServe.Model.DeepSeekV4.DeepSeekV4IncrementalParser

open ExQServe.Search ExQServe.Emission

variable {config : DeepSeekV4Config}

/-! ## The opener behind plain text -/

/-- Behind a line break inside a marker comes `<`. -/
theorem marker_lineBreak {marker : PyStr} (member : marker ∈ markers config) :
    ∀ index < marker.length, 0 < index → marker[index]? = some (chr '\n') →
      marker[index + 1]? = some (chr '<') := by
  have all : ∀ marker ∈ [thinkOpen, thinkClose, eos] ++ toolStartMarkers,
      ∀ index < marker.length, 0 < index → marker[index]? = some (chr '\n') →
        marker[index + 1]? = some (chr '<') := by
    decide
  apply all
  rw [markers] at member
  cases enabled : config.context.toolsEnabled with
  | true =>
      rw [enabled, if_pos rfl] at member
      exact member
  | false =>
      rw [enabled, if_neg Bool.false_ne_true, List.append_nil] at member
      exact List.mem_append_left _ member

theorem firstMatch_block (enabled : config.context.toolsEnabled = true) {text : PyStr}
    (plain : Plain config text) (rest : PyStr) :
    firstMatch (text ++ (newlines ++ (toolBlockOpen ++ rest))) (markers config) =
      some (text.length, newlines ++ toolBlockOpen) := by
  have opener : newlines ++ toolBlockOpen ∈ toolStartMarkers := by decide
  rw [firstMatch_eq_some (markers_endFree config)]
  refine ⟨toolStart_mem config enabled opener, ?_, ?_⟩
  · rw [Occurs, List.drop_left, ← List.append_assoc]
    exact List.prefix_append _ _
  · intro other member start occurs
    apply Nat.le_of_not_lt
    intro before
    by_cases inside : start + other.length ≤ text.length
    · exact plain other member
        ((occurs.of_append inside).isInfix.trans (List.drop_suffix start text).isInfix)
    · have char : ∀ index, index < other.length → other[index]? =
          (text ++ (newlines ++ (toolBlockOpen ++ rest)))[start + index]? := by
        intro index within
        rcases occurs with ⟨more, same⟩
        rw [← List.getElem?_drop, ← same, List.getElem?_append_left within]
      have first : (text ++ (newlines ++ (toolBlockOpen ++ rest)))[text.length]? =
          some (chr '\n') := by
        rw [List.getElem?_append_right (Nat.le_refl _), Nat.sub_self]
        rfl
      have second : (text ++ (newlines ++ (toolBlockOpen ++ rest)))[text.length + 1]? =
          some (chr '\n') := by
        rw [List.getElem?_append_right (by omega), Nat.add_sub_cancel_left]
        rfl
      have place : start + (text.length - start) = text.length := by omega
      have here := char (text.length - start) (by omega)
      rw [place, first] at here
      have next := marker_lineBreak member (text.length - start) (by omega) (by omega) here
      have within : text.length - start + 1 < other.length := by
        rcases List.getElem?_eq_some_iff.mp next with ⟨bound, -⟩
        exact bound
      rw [char _ within, ← Nat.add_assoc, place, second] at next
      exact absurd (Option.some.inj next) (by decide)

/-! ## The block -/

variable {calls : List (WrittenCall config.context.toolProperties)}

theorem declaredCalls_block (nonempty : calls ≠ []) :
    declaredCalls config (blockText calls) = some (calls.map WrittenCall.read) := by
  have declared : ∀ call ∈ calls.map WrittenCall.read,
      call.name ∈ config.context.toolProperties.keys := by
    intro call member
    rcases List.mem_map.mp member with ⟨written, -, same⟩
    rw [← same]
    exact Dict.mem_keys_of_get? written.known
  rw [declaredCalls, parseToolBlock_block nonempty]
  exact if_pos declared

def reading (calls : List (WrittenCall config.context.toolProperties)) :
    DeepSeekV4IncrementalParser where
  buffer := blockText calls
  mode := .text
  channels := .closed
  callIndex := 0
  inTool := true
  bareTool := false
  directJsonScanState := .initial
  hadIncompleteTool := false
  finished := false

def hasRead (calls : List (WrittenCall config.context.toolProperties)) :
    DeepSeekV4IncrementalParser :=
  { fresh config with mode := .text, callIndex := calls.length }

/-- The turn on the block emits its calls. -/
theorem turn_block (anew : config.resumes = false) (nonempty : calls ≠ []) :
    turn config (reading calls) = (publishCalls config.request 0 (calls.map WrittenCall.read)).map
      fun events => ⟨true, hasRead calls, events⟩ := by
  have some : (reading calls).buffer ≠ [] := fun nil =>
    absurd (List.append_eq_nil_iff.mp nil).1 (by decide)
  have layout := layout_block calls []
  rw [List.append_nil] at layout
  have close := (layout.findDsmlClose_eq (by decide)).1
  have bound : toolBlockClose.length ≤ (blockText calls).length := by
    rw [blockText]
    simp only [List.length_append, List.length_cons]
    omega
  have ends : (blockText calls).length - toolBlockClose.length + toolBlockClose.length =
      (blockText calls).length := Nat.sub_add_cancel bound
  have block : blockOf ((blockText calls).length - toolBlockClose.length) (reading calls) =
      blockText calls := by
    rw [blockOf, ends]
    exact List.take_length
  have rest : shut ((blockText calls).length - toolBlockClose.length) (reading calls) =
      { fresh config with mode := .text } := by
    rw [shut, ends, reading]
    dsimp only
    rw [List.drop_length]
    rfl
  rw [turn_tool config some rfl, processTool_some config anew close, block, rest, emitToolBlock]
  dsimp only
  rw [declaredCalls_block nonempty]
  dsimp only
  have index : (fresh config).callIndex = 0 := rfl
  rw [index]
  cases publishCalls config.request 0 (calls.map WrittenCall.read) with
  | error failure => rfl
  | ok events =>
      have length : (calls.map WrittenCall.read).length = calls.length := List.length_map _
      dsimp only
      rw [length, Nat.zero_add]
      rfl

/-! ## The run -/

/-- The text of a run: plain text and behind it a block. -/
def history (text : PyStr) (calls : List (WrittenCall config.context.toolProperties)) : PyStr :=
  text ++ (newlines ++ blockText calls)

theorem firstMatch_history (enabled : config.context.toolsEnabled = true) {text : PyStr}
    (plain : Plain config text) : firstMatch (history text calls) (markers config) =
      some (text.length, newlines ++ toolBlockOpen) := by
  rw [history, blockText]
  exact firstMatch_block enabled plain _

/-- The turn on the opener enters the block. -/
theorem turn_opener (enabled : config.context.toolsEnabled = true) (text : PyStr) :
    turn config (delivered config text (newlines ++ blockText calls) (fresh config)) =
      .ok ⟨true, reading calls,
        ((delivered config text [] (fresh config)).channels.closeChannel config.request.requestId
          (fresh config).mode).2⟩ := by
  have empty : Plain config [] := by
    intro marker member inside
    exact (markers_endFree config).nonempty marker member (List.infix_nil.mp inside)
  have found : firstMatch (newlines ++ blockText calls) (markers config) =
      some (0, newlines ++ toolBlockOpen) := firstMatch_block enabled empty _
  have here : newlines ++ toolBlockOpen <+: newlines ++ blockText calls := by
    rw [blockText, ← List.append_assoc]
    exact List.prefix_append _ _
  have some : newlines ++ blockText calls ≠ [] := fun nil =>
    absurd (List.append_eq_nil_iff.mp nil).1 (by decide)
  have coherent := (@ContentChannels.Coherent.emit config.request.requestId (fresh config).mode
    .closed ContentChannels.closed_coherent text).1
  have closed := (@ContentChannels.Coherent.close config.request.requestId _ _ coherent).1
  have next : entered config (newlines ++ toolBlockOpen)
      (delivered config text (newlines ++ blockText calls) (fresh config)) = reading calls := by
    have first : newlines <+: newlines ++ toolBlockOpen := List.prefix_append _ _
    have notMalformed : newlines ++ toolBlockOpen ∉ malformedToolOpenMarkers := by decide
    have notBare : newlines ++ toolBlockOpen ∉ bareInvokeMarkers := by decide
    rw [entered, if_pos first, if_neg notMalformed, Nat.add_zero, delivered]
    dsimp only
    rw [List.drop_left, decide_eq_false notMalformed, decide_eq_false notBare]
    have shut : (((fresh config).channels.emitContent config.request.requestId (fresh config).mode
        text).1.closeChannel config.request.requestId (fresh config).mode).1 = .closed := closed
    rw [shut]
    rfl
  rw [turn_marker config some rfl found, enter, if_neg (by decide),
    if_neg (by decide), if_neg (by decide), enterTool_eq config here, next]
  rfl

/-- The text before the block is delivered first. -/
theorem drain_history (enabled : config.context.toolsEnabled = true) {text : PyStr}
    (plain : Plain config text) :
    (machine config).drain (push (fresh config) (history text calls)) =
      ((machine config).drain
        (delivered config text (newlines ++ blockText calls) (fresh config))).map
          (Ending.after (deltas config text (fresh config))) ∧
    (Steady config (delivered config text (newlines ++ blockText calls) (fresh config)) →
      Steady config (push (fresh config) (history text calls))) := by
  have found := @firstMatch_history config calls enabled text plain
  by_cases empty : text = []
  · have same : push (fresh config) (history text calls) =
        delivered config text (newlines ++ blockText calls) (fresh config) := by
      rw [empty]
      rfl
    have silent : deltas config text (fresh config) = [] := by
      rw [empty]
      rfl
    rw [same, silent, Ending.map_after_nil]
    exact ⟨rfl, id⟩
  · have some : history text calls ≠ [] := fun nil => empty (List.append_eq_nil_iff.mp nil).1
    have turned := @turn_text config (push (fresh config) (history text calls)) _ _ some rfl found
      (List.length_pos_iff.mpr empty)
    have front : (push (fresh config) (history text calls)).buffer.take text.length = text :=
      List.take_left
    have back : (push (fresh config) (history text calls)).buffer.drop text.length =
      newlines ++ blockText calls := List.drop_left
    rw [front, back] at turned
    have turned' : (machine config).turn (push (fresh config) (history text calls)) = .ok ⟨true,
        delivered config text (newlines ++ blockText calls) (fresh config),
        deltas config text (fresh config)⟩ := turned
    refine ⟨Draining.drain_of_progress turned' rfl, ?_⟩
    intro later
    apply @Draining.Always.of_turn _ _ _ _ (machine config)
      (fun reached => blockSteady reached = true) _ rfl
    intro ending other progressed
    cases turned'.symm.trans other
    exact later

theorem hasRead_rests : turn config (hasRead calls) = .ok ⟨false, hasRead calls, []⟩ :=
  turn_empty config rfl

theorem steady_history (anew : config.resumes = false)
    (enabled : config.context.toolsEnabled = true) (nonempty : calls ≠ []) {text : PyStr}
    (plain : Plain config text) : Steady config (push (fresh config) (history text calls)) := by
  have layout := layout_block calls []
  rw [List.append_nil] at layout
  have isSteady : blockSteady (reading calls) = true := (layout.findDsmlClose_eq (by decide)).2
  apply (drain_history enabled plain).2
  apply @Draining.Always.of_turn _ _ _ _ (machine config)
    (fun reached => blockSteady reached = true) _ rfl
  intro ending turned progressed
  cases (turn_opener enabled text).symm.trans turned
  apply @Draining.Always.of_turn _ _ _ _ (machine config)
    (fun reached => blockSteady reached = true) _ isSteady
  intro ending turned progressed
  have block := @turn_block config calls anew nonempty
  have same : turn config (reading calls) = .ok ending := turned
  rw [same] at block
  rcases map_eq_ok block.symm with ⟨events, -, equal⟩
  rw [← equal]
  apply @Draining.Always.of_turn _ _ _ _ (machine config)
    (fun reached => blockSteady reached = true) _ rfl
  intro ending turned progressed
  cases hasRead_rests.symm.trans turned
  cases progressed

/-- Feeding the text at once delivers the plain text and emits the calls. -/
theorem fed_history (anew : config.resumes = false) (enabled : config.context.toolsEnabled = true)
    (nonempty : calls ≠ []) {text : PyStr} (plain : Plain config text) :
    feedChunks config [history text calls] (fresh config) =
      (publishCalls config.request 0 (calls.map WrittenCall.read)).map fun events =>
        ⟨(), hasRead calls, deltas config text (fresh config) ++
          (((delivered config text [] (fresh config)).channels.closeChannel
            config.request.requestId (fresh config).mode).2 ++ events)⟩ := by
  have opened : (machine config).turn
      (delivered config text (newlines ++ blockText calls) (fresh config)) = _ :=
    turn_opener enabled text
  have block : (machine config).turn (reading calls) = _ := turn_block anew nonempty
  have rests : (machine config).turn (hasRead calls) = _ := hasRead_rests
  have fed : feed config (history text calls) (fresh config) =
      (publishCalls config.request 0 (calls.map WrittenCall.read)).map fun events =>
        ⟨(), hasRead calls, deltas config text (fresh config) ++
          (((delivered config text [] (fresh config)).channels.closeChannel
            config.request.requestId (fresh config).mode).2 ++ events)⟩ := by
    rw [feed_eq config ⟨rfl, rfl⟩ (turn_empty config rfl), Draining.feed]
    have drained := (@drain_history config calls enabled text plain).1
    rw [Draining.drain_of_progress opened rfl] at drained
    have pushed : (machine config).push (fresh config) (history text calls) =
        push (fresh config) (history text calls) := rfl
    rw [pushed, drained]
    cases published : publishCalls config.request 0 (calls.map WrittenCall.read) with
    | error failure =>
        rw [published] at block
        rw [Draining.drain_of_error block]
        rfl
    | ok events =>
        rw [published] at block
        rw [Draining.drain_of_progress block rfl]
        dsimp only
        rw [Draining.drain_of_rest rests rfl]
        simp only [Except.map, Ending.after, List.append_nil]
  cases published : publishCalls config.request 0 (calls.map WrittenCall.read) with
  | error failure =>
      rw [published] at fed
      rw [feedChunks, Emitting.bind_run_error fed]
      rfl
  | ok events =>
      rw [published] at fed
      rw [feedChunks, Emitting.bind_run_ok fed]
      exact congrArg Except.ok (congrArg (Ending.mk _ _) (List.append_nil _))

theorem finish_hasRead : ∃ state,
    finish config (hasRead calls) = .ok ⟨false, state, []⟩ := by
  have noBlock : ¬(config.context.toolsEnabled = true ∧ toolBlockOpen <+: (hasRead calls).buffer) :=
    fun both => absurd (List.prefix_nil.mp both.2) (by decide)
  have none : cutAtEnd config (hasRead calls).buffer = 0 := by
    have held : longestPartial toolStartMarkers ([] : PyStr) = 0 := by decide
    have buffer : (hasRead calls).buffer = [] := rfl
    rw [cutAtEnd, buffer, held, ite_self]
  rcases (finish_plain rfl rfl noBlock).1 none with ⟨state, finished⟩
  exact ⟨state, finished⟩

/-! ## What the run shows -/

theorem publishCalls_plain {request : DialectRequest} {index : Nat} {calls : List ParsedCall}
    {events : List GenerationEvent} (published : publishCalls request index calls = .ok events) :
    ∀ event ∈ events, deltaPiece event = none := by
  induction calls generalizing index events with
  | nil =>
      cases published
      exact fun event member => nomatch member
  | cons call calls induction =>
      rw [publishCalls] at published
      cases first : request.publishCall index call with
      | error failure =>
          rw [first] at published
          cases published
      | ok front =>
          rw [first] at published
          rcases map_eq_ok published with ⟨rest, later, same⟩
          intro event member
          rw [← same, DialectRequest.publishCall_ok first, DialectRequest.callEvents] at member
          rcases List.mem_append.mp member with here | there
          · simp only [List.mem_cons, List.not_mem_nil, or_false] at here
            rcases here with here | here | here
            · rw [here]; rfl
            · rw [here]; rfl
            · rw [here]; rfl
          · exact induction later event there

theorem calls_apart {request : DialectRequest} {index : Nat} {calls : List ParsedCall}
    {events : List GenerationEvent} (published : publishCalls request index calls = .ok events) :
    ∀ event ∈ events, ∀ other, deltaJoining.join event other = none ∧
      deltaJoining.join other event = none := by
  intro event member other
  have plain := publishCalls_plain published event member
  constructor
  · simp [deltaJoining, Joining.ofPieces, Joining.joinPieces, plain]
  · simp [deltaJoining, Joining.ofPieces, Joining.joinPieces, plain]

/-- What is shown of plain text and the calls behind it. -/
theorem observed_history (anew : config.resumes = false)
    (enabled : config.context.toolsEnabled = true) (nonempty : calls ≠ []) {text : PyStr}
    (plain : Plain config text) :
    observed (run config [history text calls]) =
      (publishCalls config.request 0 (calls.map WrittenCall.read)).map fun events =>
        (wholeContent config text ++ events, false) := by
  have fed := @fed_history config calls anew enabled nonempty text plain
  cases published : publishCalls config.request 0 (calls.map WrittenCall.read) with
  | error failure =>
      rw [published] at fed
      rw [run, Emitting.bind_run_error fed]
      rfl
  | ok events =>
      rw [published] at fed
      rcases @finish_hasRead config calls with ⟨state, finished⟩
      have merged := @merge_pieces config text []
      have silent : deltas config [] (delivered config text [] (fresh config)) = [] := rfl
      have stays : delivered config [] [] (delivered config text [] (fresh config)) =
          delivered config text [] (fresh config) := rfl
      rw [silent, stays, List.nil_append, List.append_nil] at merged
      have shown := deltaJoining.merge_append_apart (deltas config text (fresh config) ++
        ((delivered config text [] (fresh config)).channels.closeChannel
          config.request.requestId (fresh config).mode).2) (calls_apart published)
      rw [← mergeDeltas, ← mergeDeltas, merged, List.append_assoc] at shown
      have ran : run config [history text calls] = _ := Emitting.bind_run_ok fed
      rw [ran, finished]
      simp only [observed, Except.map, Ending.after, List.append_nil, shown]

def oneString (key text : PyStr) : PyStr := jsonDump (.dict [(key, .str text)])

theorem parse_oneString (key text : PyStr) :
    parseJsonStrict (oneString key text) = some (.dict [(key, .str text)]) := by
  rcases Json.dumpsString_written key with ⟨keyBody, keySame, keyString, keyRead⟩
  rcases Json.dumpsString_written text with ⟨body, same, string, read⟩
  have value := @Json.Written.str body text string read
  have entry := @Json.Written.lastEntry keyBody [] [] (chr '"' :: body) [] key _ keyString keyRead
    .nil .nil value .nil
  have written := @Json.Written.dict [] _ _ .nil entry (List.nodup_singleton key)
  apply parse_jsonDump written
  intro number inside isNumber
  cases inside with
  | here => cases isNumber
  | entry member inside =>
      rw [List.mem_singleton.mp member] at inside
      cases inside
      cases isNumber

def searchDocument : JsonObject :=
  [(py "properties", .dict [(py "query", .dict []), (py "tags", .dict [])])]

theorem searchDocument_parsed : ∃ entries : JsonObject,
    canonicalJsonDumps (.dict searchDocument) = canonicalJsonDumps (.dict entries) ∧
      parseJsonStrict (canonicalJsonDumps (.dict searchDocument)) =
        some (.dict searchDocument) := by
  have sorted : (JsonValue.dict searchDocument).sorted = .dict searchDocument := rfl
  have read := @parseJsonStrict_canonicalJsonDumps (.dict searchDocument) rfl [] .nil
  rw [List.append_nil, sorted] at read
  exact ⟨searchDocument, rfl, read⟩

theorem searchDocument_draft (declared : JsonValue)
    (found : searchDocument.get? (py "$schema") = some declared) :
    declared = .null ∨ declared = .str draft202012 := by
  cases found

theorem searchDocument_local : referencesLocal (.dict searchDocument) = true := rfl

theorem searchTool_name : NonBlank (py "search") := by decide

def searchTool : FunctionTool :=
  ⟨py "search", none, ⟨canonicalJsonDumps (.dict searchDocument), searchDocument,
    searchDocument_parsed, searchDocument_draft, searchDocument_local⟩, false, searchTool_name⟩

def searchPolicy : ToolPolicy := .automatic [searchTool] (List.nodup_singleton _)

def searchConfig : DeepSeekV4Config :=
  ⟨sampleConfig.request, true, deepseekV4ParserContext searchPolicy, true, rfl⟩

def queryCall : WrittenCall searchConfig.context.toolProperties where
  name := py "search"
  argumentsJson := oneString (py "query") (py "x")
  arguments := [(py "query", .str (py "x"))]
  properties := [py "query", py "tags"]
  parsed := parse_oneString _ _
  valid := by decide
  known := by decide
  declared argument member := by
    rw [List.mem_singleton.mp member]
    decide
  keys argument member := by
    rw [List.mem_singleton.mp member]
    exact ⟨by decide, by decide, by decide⟩
  texts argument member text same := by
    rw [List.mem_singleton.mp member] at same
    cases same
    decide
  numbers argument member number inside isNumber := by
    rw [List.mem_singleton.mp member] at inside
    cases inside
    cases isNumber

def tagList : JsonValue := .list [.str parameterClose, .bool true]

theorem tagList_parsed : parseJsonStrict (canonicalJsonDumps (.dict [(py "tags", tagList)])) =
    some (.dict [(py "tags", tagList)]) := by
  have sorted : (JsonValue.dict [(py "tags", tagList)]).sorted = .dict [(py "tags", tagList)] := rfl
  have read := @parseJsonStrict_canonicalJsonDumps (.dict [(py "tags", tagList)]) rfl [] .nil
  rw [List.append_nil, sorted] at read
  exact read

theorem tagList_numbers : NumbersReturn tagList := by
  intro number inside isNumber
  cases inside with
  | here => cases isNumber
  | item member inside =>
      rcases List.mem_pair.mp member with rfl | rfl
      · cases inside
        cases isNumber
      · cases inside
        cases isNumber

def tagsCall : WrittenCall searchConfig.context.toolProperties where
  name := py "search"
  argumentsJson := canonicalJsonDumps (.dict [(py "tags", tagList)])
  arguments := [(py "tags", tagList)]
  properties := [py "query", py "tags"]
  parsed := tagList_parsed
  valid := by decide
  known := by decide
  declared argument member := by
    rw [List.mem_singleton.mp member]
    decide
  keys argument member := by
    rw [List.mem_singleton.mp member]
    exact ⟨by decide, by decide, by decide⟩
  texts argument member text same := by
    rw [List.mem_singleton.mp member] at same
    cases same
  numbers argument member := by
    rw [List.mem_singleton.mp member]
    exact tagList_numbers

/-- A name that ends with the start of what ends it, and two that hold a close. -/
def oddNames : List PyStr := [py "x\" string=", toolBlockClose, invokeClose]

def oddConfig : DeepSeekV4Config where
  request := sampleConfig.request
  startInReasoning := false
  context := ⟨true, Dict.empty.set (py "lookup") oddNames⟩
  resumes := true
  tagged := rfl

def oddText (name : PyStr) : PyStr :=
  py "\n\n" ++ toolBlockOpen ++ py "\n" ++
    callText (py "lookup") [(name, .str (py "v"))] ++ py "\n" ++ toolBlockClose

theorem encode_oneString (name key text : PyStr) (named : key ≠ []) :
    encodeCalls [⟨name, oneString key text⟩] = some (py "\n\n" ++ toolBlockOpen ++ py "\n" ++
      callText name [(key, .str text)] ++ py "\n" ++ toolBlockClose) := by
  have encoded : encodeCall ⟨name, oneString key text⟩ =
    some (callText name [(key, .str text)]) := by
    have keyed : ¬∃ argument ∈ [(key, JsonValue.str text)], argument.1 = [] := by
      intro unnamed
      rcases unnamed with ⟨argument, member, empty⟩
      rw [List.mem_singleton.mp member] at empty
      exact named empty
    rw [encodeCall, parse_oneString]
    dsimp only
    rw [if_neg keyed, callText, argumentLines]
    simp only [List.map_cons, List.map_nil, List.cons_append, List.nil_append, joinLines,
      List.flatMap_cons, List.flatMap_nil, List.append_nil, List.append_assoc]
  rw [encodeCalls, List.mapM_cons, encoded]
  rfl

/-- The name does not hold what ends it, the encoder writes the call, and the call does not
come back. -/
def LosesCall (name : PyStr) : Prop :=
  ¬stringFlag <:+: name ∧
    encodeCalls [⟨py "lookup", oneString name (py "v")⟩] = some (oddText name) ∧
    (run oddConfig [oddText name]).map (fun ending =>
      (ending.log.filterMap fun event => match event with
        | .toolCallCompleted _ item => some item.name
        | _ => none, ending.value)) = .ok ([], true)

end ExQServe.Model.DeepSeekV4.DeepSeekV4IncrementalParser
