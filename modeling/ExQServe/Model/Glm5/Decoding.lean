import ExQServe.Agent.JsonText
import ExQServe.Model.Glm5.Chunking

/-! # Written GLM-5 calls

A call in the form the model is asked for, and that the parser reads exactly this call from it. -/

namespace ExQServe.Model.Glm5

open ExQServe.Search ExQServe.Emission

/-! ## Values -/

def StringTyped (types : Option (List PyStr)) : Prop :=
  ∃ names, types = some names ∧ py "string" ∈ names ∧
    ∀ name ∈ names, name = py "string" ∨ name = py "null"

/-- The text is the `null` of a parameter that may be a string or `null`. -/
def WritesNull (types : Option (List PyStr)) (raw : PyStr) : Prop :=
  raw.strip = py "null" ∧ ∃ names, types = some names ∧ py "null" ∈ names

/-- What the text of an argument stands for. -/
inductive Denotes (types : Option (List PyStr)) (raw : PyStr) : JsonValue → Prop
  | null (stringTyped : StringTyped types) (writesNull : WritesNull types raw) :
      Denotes types raw .null
  | str (stringTyped : StringTyped types) (plain : ¬WritesNull types raw) :
      Denotes types raw (.str raw)
  | json {value : JsonValue} (other : ¬StringTyped types)
      (parsed : parseJsonStrict raw = some value) : Denotes types raw value

theorem decodeArgument_denotes {types : Option (List PyStr)} {raw : PyStr} {value : JsonValue}
    (denotes : Denotes types raw value) : decodeArgument raw types = value := by
  rw [decodeArgument.eq_def]
  cases denotes with
  | null stringTyped writesNull =>
      rcases stringTyped with ⟨names, known, string, only⟩
      rcases writesNull with ⟨stripped, others, same, nullable⟩
      rw [known] at same
      cases same
      rw [known]
      dsimp only
      rw [if_pos ⟨string, only⟩, if_pos ⟨stripped, nullable⟩]
  | str stringTyped plain =>
      rcases stringTyped with ⟨names, known, string, only⟩
      have notNull : ¬(raw.strip = py "null" ∧ py "null" ∈ names) :=
        fun both => plain ⟨both.1, names, known, both.2⟩
      rw [known]
      dsimp only
      rw [if_pos ⟨string, only⟩, if_neg notNull]
  | json other parsed =>
      have stripped := parseJsonStrict_strip parsed
      cases types with
      | none =>
          dsimp only
          rw [stripped]
          rfl
      | some names =>
          have mixed : ¬(py "string" ∈ names ∧
              ∀ type ∈ names, type = py "string" ∨ type = py "null") :=
            fun both => other ⟨names, rfl, both⟩
          dsimp only
          rw [if_neg mixed, stripped]
          rfl

/-! ## Arguments -/

structure WrittenArgument where
  lead : PyStr
  key : PyStr
  between : PyStr
  raw : PyStr
  value : JsonValue
  leadSpaces : ∀ char ∈ lead, char.isSpace = true
  betweenSpaces : ∀ char ∈ between, char.isSpace = true
  keyStripped : key.strip = key
  keyNonempty : key ≠ []
  keyWhole : ¬argKeyClose <:+: key
  keyInside : ¬toolClose <:+: key
  rawWhole : ¬argValueClose <:+: raw
  rawInside : ¬toolClose <:+: raw

namespace WrittenArgument

def text (argument : WrittenArgument) : PyStr :=
  argument.lead ++ (argKeyOpen ++ (argument.key ++ (argKeyClose ++ (argument.between ++
    (argValueOpen ++ (argument.raw ++ argValueClose))))))

def entry (argument : WrittenArgument) : PyStr × JsonValue := (argument.key, argument.value)

theorem text_append (argument : WrittenArgument) (rest : PyStr) :
    argument.text ++ rest = argument.lead ++ (argKeyOpen ++ (argument.key ++ (argKeyClose ++
      (argument.between ++ (argValueOpen ++ (argument.raw ++ (argValueClose ++ rest))))))) := by
  simp only [text, List.append_assoc]

end WrittenArgument

theorem lstrip_append {gap rest : PyStr} (spaces : ∀ char ∈ gap, char.isSpace = true)
    (solid : ∀ first ∈ rest.head?, first.isSpace = false) : PyStr.lstrip (gap ++ rest) = rest := by
  rw [PyStr.lstrip, List.dropWhile_append_of_pos spaces]
  cases rest with
  | nil => rfl
  | cons first rest => exact List.dropWhile_cons_of_neg (by rw [solid first rfl]; decide)

theorem headed_argKeyClose : Headed (chr '<') argKeyClose := by decide

theorem headed_argValueClose : Headed (chr '<') argValueClose := by decide

theorem headed_argKeyOpen : Headed (chr '<') argKeyOpen := by decide

theorem headed_argValueOpen : Headed (chr '<') argValueOpen := by decide

theorem headed_toolClose : Headed (chr '<') toolClose := by decide

theorem spaces_no_marker {gap : PyStr} (spaces : ∀ char ∈ gap, char.isSpace = true) :
    chr '<' ∉ gap := fun member => absurd (spaces _ member) (by decide)

theorem marker_solid {marker : PyStr} (headed : Headed (chr '<') marker) (rest : PyStr) :
    ∀ first ∈ (marker ++ rest).head?, first.isSpace = false := by
  intro first here
  rw [headed.head?_append] at here
  cases here
  decide

theorem parseArguments_step (types : PyStr → Option (List PyStr)) (fuel : Nat)
    (argument : WrittenArgument) (rest : PyStr) {before : JsonObject}
    (fresh : argument.key ∉ before.keys) :
    parseArguments types (fuel + 1) (argument.text ++ rest) before =
      parseArguments types fuel rest
        (before ++ [(argument.key, decodeArgument argument.raw (types argument.key))]) := by
  have keyEnd := headed_argKeyClose.find_here argument.keyWhole
    (argument.between ++ (argValueOpen ++
    (argument.raw ++ (argValueClose ++ rest))))
  have valueEnd := headed_argValueClose.find_here argument.rawWhole rest
  have key : ¬(PyStr.strip argument.key = [] ∨ PyStr.strip argument.key ∈ before.keys) := by
    rw [argument.keyStripped]
    exact fun either => either.elim argument.keyNonempty fresh
  have isOpen : ∀ after, argKeyOpen ++ after ≠ [] := fun after => by simp [argKeyOpen, py]
  rw [parseArguments]
  dsimp only
  rw [argument.text_append, lstrip_append argument.leadSpaces (marker_solid headed_argKeyOpen _),
    if_neg (isOpen _), if_neg (not_not.mpr (List.prefix_append _ _)), List.drop_left, keyEnd]
  dsimp only
  rw [List.take_left, if_neg key, ← List.drop_drop, List.drop_left, List.drop_left,
    lstrip_append argument.betweenSpaces (marker_solid headed_argValueOpen _),
    if_neg (not_not.mpr (List.prefix_append _ _)), List.drop_left, valueEnd]
  dsimp only
  rw [List.take_left, ← List.drop_drop, List.drop_left, List.drop_left, argument.keyStripped]

/-- The loop over the arguments reads what is written. -/
theorem parseArguments_written {types : PyStr → Option (List PyStr)}
    {arguments : List WrittenArgument}
    (denotes : ∀ argument ∈ arguments, Denotes (types argument.key) argument.raw argument.value)
    {trail : PyStr} (spaces : ∀ char ∈ trail, char.isSpace = true) {before : JsonObject}
    {fuel : Nat}
    (distinct : (before.keys ++ arguments.map (·.key)).Nodup) (enough : arguments.length < fuel) :
    parseArguments types fuel (arguments.flatMap (·.text) ++ trail) before =
      some (before ++ arguments.map (·.entry)) := by
  induction arguments generalizing before fuel with
  | nil =>
      cases fuel with
      | zero => cases enough
      | succ fuel =>
          have blank := @lstrip_append trail [] spaces fun _ member => nomatch member
          rw [List.append_nil] at blank
          rw [List.flatMap_nil, List.nil_append, parseArguments]
          dsimp only
          rw [blank, if_pos rfl, List.map_nil, List.append_nil]
  | cons argument arguments induction =>
      cases fuel with
      | zero => cases enough
      | succ fuel =>
          have fresh : argument.key ∉ before.keys := fun member =>
            (List.nodup_append.mp distinct).2.2 _ member _ List.mem_cons_self rfl
          have decoded := decodeArgument_denotes (denotes argument List.mem_cons_self)
          have later : (JsonObject.keys (before ++ [argument.entry]) ++
              arguments.map (·.key)).Nodup := by
            rw [JsonObject.keys, List.map_append, List.append_assoc]
            exact distinct
          rw [List.flatMap_cons, List.append_assoc, parseArguments_step types fuel argument _ fresh,
            decoded]
          have rest := induction (fun other member => denotes other (List.mem_cons_of_mem _ member))
            later (Nat.lt_of_succ_lt_succ enough)
          rw [List.append_assoc] at rest
          exact rest

/-! ## Calls -/

def typesOf (parameterTypes : ParameterTypes) (name key : PyStr) : Option (List PyStr) :=
  (((parameterTypes.get? name).getD .empty).get? key).getD none

structure WrittenCall (parameterTypes : ParameterTypes) where
  lead : PyStr
  name : PyStr
  arguments : List WrittenArgument
  trail : PyStr
  leadSpaces : ∀ char ∈ lead, char.isSpace = true
  trailSpaces : ∀ char ∈ trail, char.isSpace = true
  nameNonempty : name ≠ []
  nameAllowed : ∀ char ∈ name, forbiddenInName char = false
  distinct : (arguments.map (·.key)).Nodup
  denotes : ∀ argument ∈ arguments,
    Denotes (typesOf parameterTypes name argument.key) argument.raw argument.value

namespace WrittenCall

variable {parameterTypes : ParameterTypes} (call : WrittenCall parameterTypes)

def body : PyStr :=
  call.lead ++ (call.name ++ (call.arguments.flatMap (·.text) ++ call.trail))

def text : PyStr := toolOpen ++ (call.body ++ toolClose)

theorem nameValid : ¬(call.name = [] ∨ call.name.any forbiddenInName = true) := by
  intro either
  rcases either with empty | bad
  · exact call.nameNonempty empty
  · rcases List.any_eq_true.mp bad with ⟨char, member, forbidden⟩
    rw [call.nameAllowed char member] at forbidden
    cases forbidden

def parsed : ParsedCall where
  name := call.name
  argumentsJson := canonicalJsonDumps (.dict (call.arguments.map (·.entry)))
  nameNonBlank := nonBlank_of_name call.nameValid

theorem nameSolid : ∀ char ∈ call.name, char.isSpace = false := by
  intro char member
  have allowed := call.nameAllowed char member
  rw [forbiddenInName] at allowed
  cases space : char.isSpace with
  | false => rfl
  | true =>
      rw [space] at allowed
      cases allowed

theorem name_no_marker : chr '<' ∉ call.name := by
  intro member
  have allowed := call.nameAllowed _ member
  revert allowed
  decide

theorem strip_name {gap : PyStr} (spaces : ∀ char ∈ gap, char.isSpace = true) :
    PyStr.strip (call.lead ++ (call.name ++ gap)) = call.name :=
  PyStr.strip_append call.leadSpaces spaces
    (fun _ here => call.nameSolid _ (List.mem_of_head? here))
    (fun _ here => call.nameSolid _ (List.mem_of_getLast? here))

end WrittenCall

theorem parseArguments_lead (types : PyStr → Option (List PyStr)) (fuel : Nat) {gap : PyStr}
    (spaces : ∀ char ∈ gap, char.isSpace = true) (rest : PyStr) (before : JsonObject) :
    parseArguments types fuel (gap ++ rest) before = parseArguments types fuel rest before := by
  cases fuel with
  | zero => rfl
  | succ fuel =>
      have stripped : PyStr.lstrip (gap ++ rest) = PyStr.lstrip rest :=
        List.dropWhile_append_of_pos spaces
      rw [parseArguments, parseArguments, stripped]

theorem length_le_flatMap_text (arguments : List WrittenArgument) :
    arguments.length ≤ (arguments.flatMap (·.text)).length := by
  induction arguments with
  | nil => exact Nat.le_refl 0
  | cons argument arguments induction =>
      have opening : 0 < argKeyOpen.length := by decide
      rw [List.flatMap_cons, List.length_append, List.length_cons, WrittenArgument.text]
      simp only [List.length_append]
      omega

theorem parseToolBody_written {parameterTypes : ParameterTypes}
    (call : WrittenCall parameterTypes) :
    parseToolBody call.body parameterTypes = some call.parsed := by
  rw [parseToolBody]
  cases shape : call.arguments with
  | nil =>
      have body : call.body = call.lead ++ (call.name ++ call.trail) := by
        rw [WrittenCall.body, shape, List.flatMap_nil, List.nil_append]
      have missing : find argKeyOpen call.body = none := by
        rw [find_eq_none_iff headed_argKeyOpen.nonempty]
        intro position occurs
        have bound := occurs.end_le headed_argKeyOpen.nonempty
        have opening : 0 < argKeyOpen.length := by decide
        have plain : chr '<' ∉ call.body := by
          rw [body]
          simp only [List.mem_append, not_or]
          exact ⟨spaces_no_marker call.leadSpaces, call.name_no_marker,
            spaces_no_marker call.trailSpaces⟩
        rw [← List.append_nil call.body] at occurs
        exact absent_of_not_mem headed_argKeyOpen plain [] position (by omega) occurs
      have stripped := call.strip_name call.trailSpaces
      rw [← body] at stripped
      rw [missing]
      dsimp only
      rw [dif_neg (by rw [stripped]; exact call.nameValid)]
      simp only [WrittenCall.parsed, shape, stripped]
      rfl
  | cons first others =>
      have tail : call.arguments.flatMap (·.text) ++ call.trail =
          first.lead ++ (argKeyOpen ++ (first.text.drop (first.lead.length + argKeyOpen.length) ++
            (others.flatMap (·.text) ++ call.trail))) := by
        rw [shape, List.flatMap_cons, List.append_assoc, WrittenArgument.text, ← List.drop_drop,
          List.drop_left, List.drop_left]
        simp only [List.append_assoc]
      have body : call.body = (call.lead ++ (call.name ++ first.lead)) ++ (argKeyOpen ++
          (first.text.drop (first.lead.length + argKeyOpen.length) ++
            (others.flatMap (·.text) ++ call.trail))) := by
        rw [WrittenCall.body, tail]
        simp only [List.append_assoc]
      have plain : chr '<' ∉ call.lead ++ (call.name ++ first.lead) := by
        simp only [List.mem_append, not_or]
        exact ⟨spaces_no_marker call.leadSpaces, call.name_no_marker,
          spaces_no_marker first.leadSpaces⟩
      have found := (absent_of_not_mem headed_argKeyOpen plain (argKeyOpen ++
          (first.text.drop (first.lead.length + argKeyOpen.length) ++
            (others.flatMap (·.text) ++ call.trail)))).find_here headed_argKeyOpen.nonempty
      rw [← body] at found
      have stripped := call.strip_name first.leadSpaces
      have read : parseArguments (typesOf parameterTypes call.name) (call.body.length + 1)
          (call.body.drop (call.lead ++ (call.name ++ first.lead)).length) [] =
            some (call.arguments.map (·.entry)) := by
        have enough : call.arguments.length < call.body.length + 1 := by
          have least := length_le_flatMap_text call.arguments
          rw [WrittenCall.body]
          simp only [List.length_append]
          omega
        have whole := @parseArguments_written _ _ call.denotes _ call.trailSpaces [] _
          call.distinct enough
        rw [tail, parseArguments_lead _ _ first.leadSpaces] at whole
        rw [body, List.drop_left, ← body]
        exact whole
      rw [found]
      dsimp only
      rw [body, List.take_left, ← body, dif_neg (by rw [stripped]; exact call.nameValid)]
      simp only [stripped]
      rw [show (fun key => (((parameterTypes.get? call.name).getD .empty).get? key).getD none) =
        typesOf parameterTypes call.name from rfl, read]
      rfl

/-! ## The close of the call -/

theorem WrittenArgument.absent_toolClose (argument : WrittenArgument) (after : PyStr) :
    Absent toolClose argument.text after := by
  have starts : ∀ {marker : PyStr} (rest : PyStr), Headed (chr '<') marker →
      ∀ first ∈ (marker ++ rest).head?, first = chr '<' := by
    intro marker rest headed first here
    rw [headed.head?_append] at here
    exact (Option.some.inj here).symm
  have keyPart := headed_toolClose.absent argument.keyInside
    (starts (argument.between ++ (argValueOpen ++ (argument.raw ++ (argValueClose ++ after))))
      headed_argKeyClose)
  have rawPart := headed_toolClose.absent argument.rawInside (starts after headed_argValueClose)
  have leadPlain := spaces_no_marker argument.leadSpaces
  have betweenPlain := spaces_no_marker argument.betweenSpaces
  have fixed : ∀ {marker : PyStr}, (∀ position < marker.length,
      ¬toolClose <+: marker.drop position ∧ ¬marker.drop position <+: toolClose) →
        ∀ rest, Absent toolClose marker rest := fun apart rest => absent_of_apart apart rest
  rw [WrittenArgument.text]
  apply Absent.append (absent_of_not_mem headed_toolClose leadPlain _)
  apply Absent.append (fixed (by decide) _)
  apply Absent.append (by simpa only [List.append_assoc] using keyPart)
  apply Absent.append (fixed (by decide) _)
  apply Absent.append (absent_of_not_mem headed_toolClose betweenPlain _)
  apply Absent.append (fixed (by decide) _)
  apply Absent.append rawPart
  exact fixed (by decide) _

theorem absent_toolClose_arguments (arguments : List WrittenArgument) (after : PyStr) :
    Absent toolClose (arguments.flatMap (·.text)) after := by
  induction arguments with
  | nil => exact fun _ inside => absurd inside (Nat.not_lt_zero _)
  | cons argument arguments induction =>
      rw [List.flatMap_cons]
      exact Absent.append (argument.absent_toolClose _) induction

theorem WrittenCall.find_toolClose {parameterTypes : ParameterTypes}
    (call : WrittenCall parameterTypes) (rest : PyStr) :
    find toolClose (call.body ++ (toolClose ++ rest)) = some call.body.length := by
  apply Absent.find_here ?_ headed_toolClose.nonempty
  apply Absent.append (absent_of_not_mem headed_toolClose (spaces_no_marker call.leadSpaces) _)
  apply Absent.append (absent_of_not_mem headed_toolClose call.name_no_marker _)
  apply Absent.append (absent_toolClose_arguments call.arguments _)
  exact absent_of_not_mem headed_toolClose (spaces_no_marker call.trailSpaces) _

/-! ## The parser on a call -/

namespace Glm5IncrementalParser

variable (config : Glm5Config) {parser : Glm5IncrementalParser}

/-- A call in content: what was held back is delivered, the channel is completed and the call is
published. -/
def emitCall (channel : Channel) (call : ParsedCall) : Parsing Unit := fun parser =>
  let (filled, deltas) :=
    parser.channels.emitContent config.request.requestId channel parser.buffer
  let (channels, completed) := filled.closeChannel config.request.requestId channel
  (config.request.publishCall parser.callIndex call).map fun events =>
    ⟨(), { parser with
      buffer := []
      mode := .content .text
      channels := channels
      toolBody := []
      callIndex := parser.callIndex + 1 }, deltas ++ (completed ++ events)⟩

theorem drain_call {channel : Channel} (mode : parser.mode = .content channel)
    (enabled : config.context.toolsEnabled = true)
    (call : WrittenCall config.context.parameterTypes) (rest : PyStr)
    (buffer : parser.buffer = call.text ++ rest) :
    (machine config).drain parser =
      (emitCall config channel call.parsed >>= fun _ => (machine config).feed rest)
        { parser with buffer := [] } := by
  have enabledMarkers : markers config = [thinkOpen, thinkClose, toolOpen] := by
    rw [markers, enabled]
    rfl
  have occurs : Occurs toolOpen parser.buffer 0 := by
    rw [buffer, WrittenCall.text, List.append_assoc]
    exact List.prefix_append _ _
  have firstAt : FirstAt (markers config) parser.buffer 0 toolOpen :=
    ⟨by rw [enabledMarkers]; simp, occurs, fun _ _ _ _ => Nat.zero_le _⟩
  have found := (firstMatch_eq_some (markers_endFree config)).mpr firstAt
  have bufferThen : parser.buffer.drop toolOpen.length =
      call.body ++ (toolClose ++ rest) := by
    rw [buffer, WrittenCall.text, List.append_assoc, List.drop_left, List.append_assoc]
  have opening := turn_marker config mode found
  rw [enter] at opening
  dsimp only at opening
  rw [if_neg (by decide), if_neg (by decide), bufferThen] at opening
  have closing : turn config { parser with
      buffer := call.body ++ (toolClose ++ rest)
      channels := (parser.channels.closeChannel config.request.requestId channel).1
      mode := .tool
      toolBody := [] } = (finishTool config { parser with
        buffer := rest
        channels := (parser.channels.closeChannel config.request.requestId channel).1
        mode := .tool
        toolBody := call.body }).map fun ending => ⟨true, ending.state, ending.log⟩ := by
    have cut : (call.body ++ (toolClose ++ rest)).drop (call.body.length + toolClose.length) =
        rest := by
      rw [← List.drop_drop, List.drop_left, List.drop_left]
    rw [turn]
    dsimp only
    rw [processTool]
    dsimp only
    rw [call.find_toolClose]
    dsimp only
    rw [cut, List.take_left]
    rfl
  rw [Draining.drain_of_progress opening rfl]
  rw [finishTool] at closing
  dsimp only at closing
  rw [parseToolBody_written] at closing
  dsimp only at closing
  cases published : config.request.publishCall parser.callIndex call.parsed with
  | error failure =>
      have failed : emitCall config channel call.parsed { parser with buffer := [] } =
          .error failure := by
        rw [emitCall]
        dsimp only
        rw [published]
        rfl
      rw [published] at closing
      rw [Draining.drain_of_error closing, Emitting.bind_run_error failed]
      rfl
  | ok events =>
      have emitted : emitCall config channel call.parsed { parser with buffer := [] } = .ok ⟨(),
          { parser with
            buffer := []
            mode := .content .text
            channels := (parser.channels.closeChannel config.request.requestId channel).1
            toolBody := []
            callIndex := parser.callIndex + 1 },
          (parser.channels.closeChannel config.request.requestId channel).2 ++ events⟩ := by
        rw [emitCall]
        dsimp only
        rw [published]
        rfl
      rw [published] at closing
      rw [Draining.drain_of_progress closing rfl, Emitting.bind_run_ok emitted,
        Ending.map_after_after]
      rfl

/-- Delivering what was held back first does not show. -/
theorem emitCall_delivered (channel : Channel) (call : ParsedCall)
    (parser : Glm5IncrementalParser) :
    emitCall config channel call parser =
      (emitCall config channel call (delivered config channel parser.buffer [] parser)).map
        (Ending.after (deltas config channel parser.buffer parser)) := by
  rw [emitCall, emitCall, delivered, deltas]
  dsimp only
  rw [ContentChannels.emitContent_nil]
  dsimp only
  cases config.request.publishCall parser.callIndex call with
  | error failure => rfl
  | ok events => rfl

theorem unmarked_of_rests {channel : Channel} (mode : parser.mode = .content channel)
    (rests : turn config parser = .ok ⟨false, parser, []⟩) :
    ∀ marker ∈ markers config, ∀ position, ¬Occurs marker parser.buffer position := by
  apply (firstMatch_eq_none (markers_endFree config).nonempty).mp
  cases found : firstMatch parser.buffer (markers config) with
  | none => rfl
  | some best =>
      rcases best with ⟨position, marker⟩
      by_cases positive : 0 < position
      · rw [turn_text config mode found positive] at rests
        cases rests
      · rw [Nat.eq_zero_of_not_pos positive] at found
        rw [turn_marker config mode found] at rests
        rcases map_eq_ok rests with ⟨_, -, same⟩
        cases same

theorem headed_markers : ∀ marker ∈ markers config, Headed (chr '<') marker := by
  rw [markers]
  cases config.context.toolsEnabled with
  | true => decide
  | false => decide

/-- In content at rest, a call that comes is emitted, and the parser goes on behind it. -/
theorem feed_call {channel : Channel} (mode : parser.mode = .content channel)
    (rests : turn config parser = .ok ⟨false, parser, []⟩)
    (enabled : config.context.toolsEnabled = true)
    (call : WrittenCall config.context.parameterTypes) (rest : PyStr) :
    Alike deltaJoining ((machine config).feed (call.text ++ rest) parser)
      ((emitCall config channel call.parsed >>= fun _ => (machine config).feed rest) parser) := by
  have shape : call.text ++ rest =
      chr '<' :: (py "tool_call>" ++ (call.body ++ (toolClose ++ rest))) := by
    rw [WrittenCall.text, List.append_assoc, List.append_assoc]
    rfl
  have clear := @clear_of_headed _ _ _ _ (py "tool_call>" ++ (call.body ++ (toolClose ++ rest)))
    (headed_markers config) (unmarked_of_rests config mode rests)
  rw [← shape] at clear
  have modeThen : (push parser (call.text ++ rest)).mode = .content channel := mode
  apply Alike.trans (drain_clear config modeThen rfl clear)
  have modeLast : (delivered config channel parser.buffer (call.text ++ rest)
      (push parser (call.text ++ rest))).mode = .content channel := mode
  rw [drain_call config modeLast enabled call rest rfl]
  apply Alike.of_eq
  have emitted := emitCall_delivered config channel call.parsed parser
  have same : ({ delivered config channel parser.buffer (call.text ++ rest)
      (push parser (call.text ++ rest)) with buffer := [] } : Glm5IncrementalParser) =
        delivered config channel parser.buffer [] parser := rfl
  rw [same]
  cases first : emitCall config channel call.parsed
      (delivered config channel parser.buffer [] parser) with
  | error failure =>
      rw [first] at emitted
      rw [Emitting.bind_run_error first, Emitting.bind_run_error emitted]
      rfl
  | ok ending =>
      rw [first] at emitted
      rw [Emitting.bind_run_ok first, Emitting.bind_run_ok emitted, Ending.map_after_after]
      rfl

theorem emitCall_sound {channel : Channel} {call : ParsedCall}
    {ending : Ending Glm5IncrementalParser GenerationEvent Unit} (sound : Sound parser)
    (mode : parser.mode = .content channel)
    (emitted : emitCall config channel call parser = .ok ending) : Sound ending.state := by
  rcases @ContentChannels.Coherent.emit config.request.requestId _ _ (sound.channels channel mode)
    parser.buffer with ⟨coherent, -⟩
  rcases @ContentChannels.Coherent.close config.request.requestId _ _ coherent with ⟨closed, -⟩
  rw [emitCall] at emitted
  dsimp only at emitted
  rcases map_eq_ok emitted with ⟨events, -, same⟩
  rw [← same]
  refine ⟨sound.unfinished, ?_, fun tool => by cases tool⟩
  intro other _
  dsimp only
  rw [closed]
  exact ContentChannels.closed_coherent

theorem feedChunks_one (text : PyStr) (sound : Sound parser) :
    feedChunks config [text] parser = (machine config).feed text parser := by
  rw [feedChunks_eq config [text] sound, Draining.feedAll, Draining.feedAll]
  exact congrFun (bind_pure ((machine config).feed text)) parser

/-- A call after a text that leaves the parser in content is emitted behind that text. -/
theorem run_call {channel : Channel} {before rest : PyStr} {chunks : List PyStr}
    (enabled : config.context.toolsEnabled = true)
    (call : WrittenCall config.context.parameterTypes)
    (inContent : (feedChunks config [before] (fresh config)).map (·.state.mode) =
      .ok (.content channel))
    (split : chunks.flatten = before ++ (call.text ++ rest)) :
    Alike deltaJoining (run config chunks)
      ((feedChunks config [before] >>= fun _ => emitCall config channel call.parsed >>= fun _ =>
        feedChunks config [rest] >>= fun _ => finish config) (fresh config)) := by
  have sound := fresh_sound config
  have parts : Alike deltaJoining ((machine config).feedAll chunks (fresh config))
      ((feedChunks config [before] >>= fun _ => emitCall config channel call.parsed >>= fun _ =>
        feedChunks config [rest]) (fresh config)) := by
    apply Alike.trans ((cutFree config).feedAll_flatten chunks sound trivial (fresh_rests config))
    rw [split]
    apply Alike.trans ((cutFree config).feed_append before (call.text ++ rest) sound trivial)
    apply Alike.bind (Alike.of_eq (feedChunks_one config before sound).symm)
    intro value reached fed
    rcases fed with ⟨log, fed⟩
    rcases (cutFree config).drain_good ((cutFree config).push _ before sound) fed with
      ⟨soundThen, restsThen⟩
    have mode : reached.mode = .content channel := by
      rw [feedChunks_one config before sound, fed] at inContent
      exact Except.ok.inj inContent
    apply Alike.trans (feed_call config mode restsThen enabled call rest)
    apply Alike.bind (Alike.refl _)
    intro value' reached' emitted
    rcases emitted with ⟨log', emitted⟩
    apply Alike.of_eq
    have soundLast : Sound reached' := emitCall_sound config soundThen mode emitted
    exact (feedChunks_one config rest soundLast).symm
  rw [run_eq]
  have whole : Alike deltaJoining
      (((machine config).feedAll chunks >>= fun _ => finish config) (fresh config))
      (((feedChunks config [before] >>= fun _ => emitCall config channel call.parsed >>= fun _ =>
        feedChunks config [rest]) >>= fun _ => finish config) (fresh config)) :=
    Alike.bind parts fun _ _ _ => Alike.refl _
  simp only [bind_assoc] at whole
  exact whole

/-! ## Calls of declared tools -/

theorem typesOf_exposed {policy : ToolPolicy} {tool : FunctionTool}
    (exposed : tool ∈ exposedTools policy) {key : PyStr} {types : List PyStr} :
    typesOf (glm5ParserContext policy).parameterTypes tool.name key = some types ↔
      Declared tool key types := by
  rw [typesOf, get?_glm5ParserContext exposed, Option.getD_some, ← toolParameterTypes_eq_some_iff]
  cases (toolParameterTypes tool.parameters.document).get? key with
  | none => simp
  | some known => simp

inductive DenotesFor (tool : FunctionTool) (key raw : PyStr) : JsonValue → Prop
  | typed {types : List PyStr} {value : JsonValue} :
      Declared tool key types → Denotes (some types) raw value → DenotesFor tool key raw value
  | untyped {value : JsonValue} :
      (∀ types, ¬Declared tool key types) → Denotes none raw value → DenotesFor tool key raw value

structure WrittenToolCall (tool : FunctionTool) where
  lead : PyStr
  arguments : List WrittenArgument
  trail : PyStr
  leadSpaces : ∀ char ∈ lead, char.isSpace = true
  trailSpaces : ∀ char ∈ trail, char.isSpace = true
  nameAllowed : ∀ char ∈ tool.name, forbiddenInName char = false
  distinct : (arguments.map (·.key)).Nodup
  denotes : ∀ argument ∈ arguments, DenotesFor tool argument.key argument.raw argument.value

namespace WrittenToolCall

variable {tool : FunctionTool} (call : WrittenToolCall tool)

def text : PyStr :=
  toolOpen ++ (call.lead ++ (tool.name ++ (call.arguments.flatMap (·.text) ++ call.trail)) ++
    toolClose)

def parsed : ParsedCall where
  name := tool.name
  argumentsJson := canonicalJsonDumps (.dict (call.arguments.map (·.entry)))
  nameNonBlank := tool.nameNonBlank

theorem nameNonempty (tool : FunctionTool) : tool.name ≠ [] := by
  intro empty
  have blank := tool.nameNonBlank
  rw [empty] at blank
  exact blank rfl

theorem denotes_exposed {policy : ToolPolicy} (exposed : tool ∈ exposedTools policy) :
    ∀ argument ∈ call.arguments,
      Denotes (typesOf (glm5ParserContext policy).parameterTypes tool.name argument.key)
        argument.raw argument.value := by
  intro argument member
  cases call.denotes argument member with
  | typed declared denotes =>
      rw [(typesOf_exposed exposed).mpr declared]
      exact denotes
  | untyped undeclared denotes =>
      have unknown : typesOf (glm5ParserContext policy).parameterTypes tool.name argument.key =
          none := by
        rw [Option.eq_none_iff_forall_ne_some]
        exact fun types known => undeclared types ((typesOf_exposed exposed).mp known)
      rw [unknown]
      exact denotes

def written {policy : ToolPolicy} (exposed : tool ∈ exposedTools policy) :
    WrittenCall (glm5ParserContext policy).parameterTypes where
  lead := call.lead
  name := tool.name
  arguments := call.arguments
  trail := call.trail
  leadSpaces := call.leadSpaces
  trailSpaces := call.trailSpaces
  nameNonempty := nameNonempty tool
  nameAllowed := call.nameAllowed
  distinct := call.distinct
  denotes := call.denotes_exposed exposed

end WrittenToolCall

def configFor (request : DialectRequest) (tagged : request.tag = py "glm5")
    (startInReasoning : Bool) (policy : ToolPolicy) : Glm5Config :=
  ⟨request, startInReasoning, glm5ParserContext policy, tagged⟩

theorem sampleConfig_id : NonBlank (py "r") :=
  nonBlank_iff.mpr ⟨chr 'r', by decide, by decide⟩

def sampleRequest : DialectRequest := ⟨py "r", py "glm5", fun _ => [], sampleConfig_id⟩

def stringType : JsonObject := [(py "type", .str (py "string"))]

def nullType : JsonObject := [(py "type", .str (py "null"))]

def unionSchema : JsonObject := [(py "anyOf", .list [.dict stringType, .dict nullType])]

def unionProperty : JsonObject := [(py "$ref", .str (py "#/$defs/s"))]

def unionDocument : JsonObject :=
  [(py "$defs", .dict [(py "s", .dict unionSchema)]),
    (py "properties", .dict [(py "k", .dict unionProperty)])]

theorem unionDocument_portable : (JsonValue.dict unionDocument).portable = true := rfl

theorem unionDocument_sorted : (JsonValue.dict unionDocument).sorted = .dict unionDocument := rfl

theorem unionDocument_undeclared : unionDocument.get? (py "$schema") = none := rfl

theorem unionDocument_local : referencesLocal (.dict unionDocument) = true := rfl

def unionParameters : JsonSchema :=
  .ofSorted unionDocument unionDocument_portable unionDocument_sorted unionDocument_undeclared
    unionDocument_local

theorem unionTool_name : NonBlank (py "f") := by decide

def unionTool : FunctionTool := ⟨py "f", none, unionParameters, false, unionTool_name⟩

/-- The reference leads to the union, which has the types of its branches. -/
theorem unionTool_declared : Declared unionTool (py "k") [py "string", py "null"] :=
  ⟨_, .dict unionProperty, rfl, rfl, @schemaSays_of_schemaTypes _ _ 3 _ _ rfl⟩

theorem unionTool_undeclared (types : List PyStr) : ¬Declared unionTool (py "n") types := by
  rintro ⟨properties, property, found, member, -⟩
  cases found
  cases member

def unionPolicy : ToolPolicy := .automatic [unionTool] (List.nodup_singleton _)

def nullArgument : WrittenArgument where
  lead := []
  key := py "k"
  between := []
  raw := py "null"
  value := .null
  leadSpaces _ member := nomatch member
  betweenSpaces _ member := nomatch member
  keyStripped := by decide
  keyNonempty := by decide
  keyWhole := by decide
  keyInside := by decide
  rawWhole := by decide
  rawInside := by decide

def numberArgument : WrittenArgument where
  lead := []
  key := py "n"
  between := []
  raw := py "7"
  value := .int 7
  leadSpaces _ member := nomatch member
  betweenSpaces _ member := nomatch member
  keyStripped := by decide
  keyNonempty := by decide
  keyWhole := by decide
  keyInside := by decide
  rawWhole := by decide
  rawInside := by decide

theorem nullArgument_denotes : DenotesFor unionTool (py "k") (py "null") .null :=
  .typed unionTool_declared (.null ⟨_, rfl, by decide, by decide⟩ ⟨by decide, _, rfl, by decide⟩)

theorem numberArgument_denotes : DenotesFor unionTool (py "n") (py "7") (.int 7) := by
  refine .untyped unionTool_undeclared (.json ?_ rfl)
  rintro ⟨names, known, -⟩
  cases known

def unionCall : WrittenToolCall unionTool where
  lead := []
  arguments := [nullArgument, numberArgument]
  trail := []
  leadSpaces _ member := nomatch member
  trailSpaces _ member := nomatch member
  nameAllowed char member := by
    rw [List.mem_singleton.mp member]
    decide
  distinct := by decide
  denotes argument member := by
    rcases List.mem_pair.mp member with rfl | rfl
    · exact nullArgument_denotes
    · exact numberArgument_denotes

def sampleConfig : Glm5Config where
  request := sampleRequest
  startInReasoning := false
  context :=
    ⟨true, Dict.empty.set (py "f") (Dict.empty.set (py "k") (some [py "string", py "null"]))⟩
  tagged := rfl

def callsOf (ran : ParserResult (Ending Glm5IncrementalParser GenerationEvent Bool)) :
    Option (List (PyStr × PyStr) × Bool) :=
  ran.toOption.map fun ending => (ending.log.filterMap fun event =>
    match event with
    | .toolCallCompleted _ item => some (item.name, item.argumentsJson)
    | _ => none, ending.value)

def sampleArgument : WrittenArgument where
  lead := []
  key := py "k"
  between := []
  raw := py "v"
  value := .str (py "v")
  leadSpaces _ member := nomatch member
  betweenSpaces _ member := nomatch member
  keyStripped := by decide
  keyNonempty := by decide
  keyWhole := by decide
  keyInside := by decide
  rawWhole := by decide
  rawInside := by decide

theorem sampleArgument_denotes :
    Denotes (typesOf sampleConfig.context.parameterTypes (py "f") (py "k")) (py "v")
      (.str (py "v")) := by
  have known : typesOf sampleConfig.context.parameterTypes (py "f") (py "k") =
      some [py "string", py "null"] := by decide
  rw [known]
  exact .str ⟨_, rfl, by decide, by decide⟩ fun writesNull => absurd writesNull.1 (by decide)

def sampleCall : WrittenCall sampleConfig.context.parameterTypes where
  lead := []
  name := [chr 'f']
  arguments := [sampleArgument]
  trail := []
  leadSpaces _ member := nomatch member
  trailSpaces _ member := nomatch member
  nameNonempty := by decide
  nameAllowed char member := by
    rw [List.mem_singleton.mp member]
    decide
  distinct := by decide
  denotes argument member := by
    rw [List.mem_singleton.mp member]
    exact sampleArgument_denotes

end Glm5IncrementalParser

end ExQServe.Model.Glm5
