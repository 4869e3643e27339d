import ExQServe.Model.DeepSeekV4.Layout

/-! # Calls that are written

What `_parse_tool_block` reads from the text of `_encode_calls`. -/

namespace ExQServe.Model.DeepSeekV4

open ExQServe.Search

/-- A call that can be written: to a declared tool, with arguments whose names and strings do not
hold what ends them. -/
structure WrittenCall (toolProperties : ToolProperties) where
  name : PyStr
  argumentsJson : PyStr
  arguments : JsonObject
  properties : List PyStr
  parsed : parseJsonStrict argumentsJson = some (.dict arguments)
  valid : validName name = true
  known : toolProperties.get? name = some properties
  declared : ∀ argument ∈ arguments, argument.1 ∈ properties
  keys : ∀ argument ∈ arguments, KeyPlain argument.1
  texts : ∀ argument ∈ arguments, ∀ text, argument.2 = .str text →
    ∀ tag ∈ parameterClose :: searched, ¬tag <:+: text
  numbers : ∀ argument ∈ arguments, NumbersReturn argument.2

/-! ## The text -/

def argumentLines (arguments : JsonObject) : PyStr :=
  arguments.flatMap fun argument => chr '\n' :: encodeArgument argument.1 argument.2

def callText (name : PyStr) (arguments : JsonObject) : PyStr :=
  invokeOpenPrefix ++ (name ++ (quoteClose ++
    (argumentLines arguments ++ chr '\n' :: invokeClose)))

theorem joinLines_cons (part : PyStr) (parts : List PyStr) :
    joinLines (part :: parts) = part ++ parts.flatMap (chr '\n' :: ·) := by
  induction parts generalizing part with
  | nil => rw [joinLines, List.flatMap_nil, List.append_nil]
  | cons next parts induction =>
      rw [joinLines, induction next, List.flatMap_cons, List.cons_append]
      exact nofun

namespace WrittenCall

variable {toolProperties : ToolProperties} (call : WrittenCall toolProperties)

theorem shape : (call.arguments.map Prod.fst).Nodup ∧
    ∀ argument ∈ call.arguments, ∃ text, Json.Written (.value argument.2) text := by
  rcases parseJsonStrict_eq_some.mp call.parsed with ⟨_, _, _, _, _, written, _⟩
  exact Json.written_dict written

theorem distinct : (call.arguments.map Prod.fst).Nodup := call.shape.1

theorem written {argument : PyStr × JsonValue} (member : argument ∈ call.arguments) :
    ∃ text, Json.Written (.value argument.2) text := call.shape.2 argument member

end WrittenCall

structure WrittenArgument (argument : PyStr × JsonValue) : Prop where
  key : KeyPlain argument.1
  text : ∀ text, argument.2 = .str text → ∀ tag ∈ parameterClose :: searched, ¬tag <:+: text
  written : ∃ text, Json.Written (.value argument.2) text
  numbers : NumbersReturn argument.2

theorem WrittenCall.argument {toolProperties : ToolProperties} (call : WrittenCall toolProperties)
    {argument : PyStr × JsonValue} (member : argument ∈ call.arguments) :
    WrittenArgument argument :=
  ⟨call.keys argument member, call.texts argument member, call.written member,
    call.numbers argument member⟩

theorem encodeArgument_raw (key text : PyStr) : encodeArgument key (.str text) =
    argumentOpen key (py "true") ++ (text ++ parameterClose) := by
  have flag : py "\" string=\"true\">" = stringFlag ++ (py "true" ++ quoteClose) := by decide
  rw [encodeArgument, argumentOpen, flag]
  simp only [List.append_assoc]

theorem encodeArgument_json (key : PyStr) {value : JsonValue} (other : ∀ text, value ≠ .str text) :
    encodeArgument key value = argumentOpen key (py "false") ++
      (jsonDump value ++ parameterClose) := by
  have flag : py "\" string=\"false\">" = stringFlag ++ (py "false" ++ quoteClose) := by decide
  have encoded : encodeArgument key value =
      parameterOpenPrefix ++ key ++ py "\" string=\"false\">" ++ jsonDump value ++
        parameterClose := by
    cases value with
    | str text => exact absurd rfl (other text)
    | _ => rfl
  rw [encoded, argumentOpen, flag]
  simp only [List.append_assoc]

theorem WrittenArgument.isArgument {argument : PyStr × JsonValue}
    (written : WrittenArgument argument) : Argument (encodeArgument argument.1 argument.2) := by
  by_cases isText : ∃ text, argument.2 = .str text
  · rcases isText with ⟨text, same⟩
    rw [same, encodeArgument_raw]
    exact .raw written.key (written.text text same)
  · rw [encodeArgument_json argument.1 fun text same => isText ⟨text, same⟩]
    rcases written.written with ⟨_, here⟩
    exact .json written.key (quoted_jsonDump here written.numbers)

theorem encodeCall_eq {toolProperties : ToolProperties} (call : WrittenCall toolProperties) :
    encodeCall ⟨call.name, call.argumentsJson⟩ = some (callText call.name call.arguments) := by
  have named : ¬∃ argument ∈ call.arguments, argument.1 = [] := by
    intro unnamed
    rcases unnamed with ⟨argument, member, empty⟩
    exact (call.keys argument member).nonempty empty
  have lines : (call.arguments.map fun argument => encodeArgument argument.1 argument.2).flatMap
      (chr '\n' :: ·) = argumentLines call.arguments := List.flatMap_map _ _ _
  rw [encodeCall, call.parsed]
  dsimp only
  rw [if_neg named, joinLines_cons, List.flatMap_append, lines, callText]
  simp only [List.append_assoc]
  rfl

/-! ## Layouts -/

variable {toolProperties : ToolProperties} {marker : PyStr}

theorem follows_arguments {arguments : JsonObject}
    (written : ∀ argument ∈ arguments, WrittenArgument argument) {tail : PyStr} {close : Nat}
    (follows : Follows marker tail close) :
    Follows marker (argumentLines arguments ++ tail)
      ((argumentLines arguments).length + close) := by
  induction arguments with
  | nil =>
      rw [argumentLines, List.flatMap_nil, List.nil_append, List.length_nil, Nat.zero_add]
      exact follows
  | cons argument arguments induction =>
      have later := induction fun other member => written other (List.mem_cons_of_mem _ member)
      have here := (later.argument (written argument List.mem_cons_self).isArgument).behind
        (.line .nil)
      have lines : argumentLines (argument :: arguments) = [chr '\n'] ++
          (encodeArgument argument.1 argument.2 ++ argumentLines arguments) := by
        rw [argumentLines, List.flatMap_cons]
        rfl
      rw [lines]
      simp only [List.append_assoc, List.length_append]
      rw [Nat.add_assoc, Nat.add_assoc]
      exact here

/-- A call whose text is followed by other text, up to its own close. -/
theorem layout_call (call : WrittenCall toolProperties) (more : PyStr) :
    Layout invokeClose (callText call.name call.arguments ++ more)
      ((callText call.name call.arguments).length - invokeClose.length) := by
  have closes := (follows_close invokeClose more).behind (.line .nil)
  have lines := follows_arguments (fun _ member => call.argument member) closes
  have whole := (lines.behind (.invoke call.valid .nil)).layout
  rw [callText]
  simp only [List.append_assoc, List.cons_append, List.nil_append, List.append_nil] at whole ⊢
  have position : (invokeOpenPrefix ++ (call.name ++ quoteClose)).length +
      ((argumentLines call.arguments).length + ([chr '\n'].length + 0)) =
        (invokeOpenPrefix ++ (call.name ++ (quoteClose ++
          (argumentLines call.arguments ++ chr '\n' :: invokeClose)))).length -
            invokeClose.length := by
    simp only [List.length_append, List.length_cons, List.length_nil]
    omega
  rw [← position]
  exact whole

def callLines (calls : List (WrittenCall toolProperties)) : PyStr :=
  calls.flatMap fun call => chr '\n' :: callText call.name call.arguments

def blockText (calls : List (WrittenCall toolProperties)) : PyStr :=
  toolBlockOpen ++ (callLines calls ++ chr '\n' :: toolBlockClose)

theorem follows_calls {calls : List (WrittenCall toolProperties)} {tail : PyStr} {close : Nat}
    (follows : Follows toolBlockClose tail close) :
    Follows toolBlockClose (callLines calls ++ tail) ((callLines calls).length + close) := by
  induction calls with
  | nil =>
      rw [callLines, List.flatMap_nil, List.nil_append, List.length_nil, Nat.zero_add]
      exact follows
  | cons call calls induction =>
      have closeTag : Gap toolBlockClose (invokeClose ++ []) := .tag (by decide) (by decide) .nil
      rw [List.append_nil] at closeTag
      have ends := induction.behind (.line closeTag)
      have lines := follows_arguments (fun _ member => call.argument member) ends
      have here := lines.behind (.line (.invoke call.valid .nil))
      have text : callLines (call :: calls) =
          chr '\n' :: (callText call.name call.arguments ++ callLines calls) := by
        rw [callLines, List.flatMap_cons]
        rfl
      rw [text, callText]
      simp only [List.append_assoc, List.cons_append, List.append_nil, List.length_append,
        List.length_cons] at here ⊢
      exact (congrArg (Follows toolBlockClose _) (by omega)).mp here

theorem layout_block (calls : List (WrittenCall toolProperties)) (more : PyStr) :
    Layout toolBlockClose (blockText calls ++ more)
      ((blockText calls).length - toolBlockClose.length) := by
  have opener : Gap toolBlockClose (toolBlockOpen ++ []) := .tag (by decide) (by decide) .nil
  rw [List.append_nil] at opener
  have closes := (follows_close toolBlockClose more).behind (.line .nil)
  have whole := ((@follows_calls _ calls _ _ closes).behind opener).layout
  rw [blockText]
  simp only [List.append_assoc, List.cons_append, List.nil_append] at whole ⊢
  have position : toolBlockOpen.length + ((callLines calls).length + ([chr '\n'].length + 0)) =
      (toolBlockOpen ++ (callLines calls ++ chr '\n' :: toolBlockClose)).length -
        toolBlockClose.length := by
    simp only [List.length_append, List.length_cons, List.length_nil]
    omega
  rw [← position]
  exact whole

/-! ## Parsing -/

theorem lstrip_line (text : PyStr) : PyStr.lstrip (chr '\n' :: text) = PyStr.lstrip text :=
  List.dropWhile_cons_of_pos (by decide)

theorem lstrip_tag {tag : PyStr} (isTag : tag ∈ tags) (rest : PyStr) :
    PyStr.lstrip (tag ++ rest) = tag ++ rest := by
  have head := (tags_headed tag isTag).head?_append rest
  cases shape : tag ++ rest with
  | nil =>
      rw [shape] at head
      cases head
  | cons char text =>
      rw [shape] at head
      cases head
      exact List.dropWhile_cons_of_neg (by decide)

/-- The loop over the arguments behind the opening of one. -/
theorem parseParameters_open {key flag : PyStr} {arguments : JsonObject} (plain : KeyPlain key)
    (flagged : chr '"' ∉ flag) (new : key ∉ arguments.keys) (turns : Nat) (body : PyStr) :
    parseParameters (turns + 1) (argumentOpen key flag ++ body) arguments =
      if flag = py "true" then
        match find parameterClose body with
        | none => none
        | some valueEnd =>
            parseParameters turns (body.drop (valueEnd + parameterClose.length))
              (arguments ++ [(key, .str (body.take valueEnd))])
      else if flag = py "false" then
        match findJsonParameterClose body 0 with
        | none => none
        | some valueEnd =>
            match parseJsonStrict (PyStr.strip (body.take valueEnd)) with
            | none => none
            | some value =>
                parseParameters turns (body.drop (valueEnd + parameterClose.length))
                  (arguments ++ [(key, value)])
      else none := by
  have shape : argumentOpen key flag ++ body =
      parameterOpenPrefix ++ (key ++ (stringFlag ++ (flag ++ (quoteClose ++ body)))) := by
    rw [argumentOpen]
    simp only [List.append_assoc]
  have stripped := lstrip_tag (by decide : parameterOpenPrefix ∈ tags)
    (key ++ (stringFlag ++ (flag ++ (quoteClose ++ body))))
  have nonempty : parameterOpenPrefix ++ (key ++ (stringFlag ++ (flag ++ (quoteClose ++ body)))) ≠
      [] := fun nil => absurd (List.append_eq_nil_iff.mp nil).1 (by decide)
  have afterKey : (key ++ (stringFlag ++ (flag ++ (quoteClose ++ body)))).drop
      (key.length + stringFlag.length) = flag ++ (quoteClose ++ body) := by
    rw [← List.append_assoc, ← List.length_append, List.drop_left]
  have afterFlag : (flag ++ (quoteClose ++ body)).drop (flag.length + 2) = body := by
    rw [← List.append_assoc, show flag.length + 2 = (flag ++ quoteClose).length by
      rw [List.length_append]; rfl, List.drop_left]
  rw [parseParameters, shape, stripped]
  dsimp only
  rw [if_neg nonempty, if_neg (not_not.mpr (List.prefix_append _ _)), List.drop_left, plain.find]
  dsimp only
  rw [List.take_left, if_neg (not_or.mpr ⟨plain.nonempty, new⟩), afterKey,
    (quote_absent flagged _).find_here (by decide)]
  dsimp only
  rw [List.take_left]
  generalize (flag ++ (quoteClose ++ body)).drop (flag.length + 2) = remaining at afterFlag ⊢
  subst afterFlag
  rfl

/-- The loop over the arguments at an argument. -/
theorem parseParameters_step {argument : PyStr × JsonValue} (written : WrittenArgument argument)
    {arguments : JsonObject} (new : argument.1 ∉ arguments.keys) (turns : Nat) (rest : PyStr) :
    parseParameters (turns + 1) (encodeArgument argument.1 argument.2 ++ rest) arguments =
      parseParameters turns rest (arguments ++ [argument]) := by
  have close := (by decide : parameterClose ∈ tags)
  have behind : ∀ text : PyStr, (text ++ (parameterClose ++ rest)).drop
      (text.length + parameterClose.length) = rest := by
    intro text
    rw [← List.append_assoc, ← List.length_append, List.drop_left]
  by_cases isText : ∃ text, argument.2 = .str text
  · rcases isText with ⟨text, same⟩
    have found := (tags_headed parameterClose close).find_here
      (written.text text same parameterClose List.mem_cons_self) rest
    have whole : argument = (argument.1, .str text) := Prod.ext rfl same
    rw [same, encodeArgument_raw, List.append_assoc, List.append_assoc,
      parseParameters_open written.key (by decide) new, if_pos rfl, found]
    dsimp only
    rw [List.take_left, behind, ← whole]
  · rcases written.written with ⟨_, here⟩
    have quoted := quoted_jsonDump here written.numbers
    have returned := parseJsonStrict_strip (parse_jsonDump here written.numbers)
    have found := @findOutsideStrings_quoted parameterClose [] (jsonDump argument.2)
      (parameterClose ++ rest) quoted (tags_headed parameterClose close).starts
    rw [findOutside_self (tags_headed parameterClose close).starts, List.nil_append,
      List.length_nil, Option.map_some, Nat.zero_add, Nat.add_zero,
      ← findJsonParameterClose] at found
    rw [encodeArgument_json argument.1 fun text same => isText ⟨text, same⟩, List.append_assoc,
      List.append_assoc, parseParameters_open written.key (by decide) new, if_neg (by decide),
      if_pos rfl, found]
    dsimp only
    rw [List.take_left, returned]
    dsimp only
    rw [behind]

theorem parseParameters_lines {arguments : JsonObject}
    (written : ∀ argument ∈ arguments, WrittenArgument argument) {read : JsonObject}
    (distinct : ((read ++ arguments).map Prod.fst).Nodup) {turns : Nat}
    (enough : arguments.length < turns) :
    parseParameters turns (argumentLines arguments) read = some (read ++ arguments) := by
  induction arguments generalizing read turns with
  | nil =>
      cases turns with
      | zero => cases enough
      | succ turns =>
          rw [parseParameters, argumentLines, List.flatMap_nil, List.append_nil]
          exact if_pos rfl
  | cons argument arguments induction =>
      cases turns with
      | zero => cases enough
      | succ turns =>
          have new : argument.1 ∉ read.keys := by
            rw [List.map_append, List.map_cons] at distinct
            exact fun member =>
              (List.nodup_append.mp distinct).2.2 _ member _ List.mem_cons_self rfl
          have later := @induction
            (fun other member => written other (List.mem_cons_of_mem _ member))
            (read ++ [argument]) (by rw [List.append_assoc]; exact distinct) turns
            (by rw [List.length_cons] at enough; omega)
          have lines : argumentLines (argument :: arguments) = chr '\n' ::
              (encodeArgument argument.1 argument.2 ++ argumentLines arguments) := by
            rw [argumentLines, List.flatMap_cons]
            rfl
          have skips : parseParameters (turns + 1) (argumentLines (argument :: arguments)) read =
              parseParameters (turns + 1)
                (encodeArgument argument.1 argument.2 ++ argumentLines arguments) read := by
            rw [parseParameters, lines, lstrip_line, parseParameters]
          rw [skips, parseParameters_step (written argument List.mem_cons_self) new, later,
            List.append_assoc]
          rfl

/-- Arguments under declared names are no wrapper. -/
theorem unwrapped_declared {properties : List PyStr} {arguments : JsonObject}
    (declared : ∀ argument ∈ arguments, argument.1 ∈ properties) (wrapper : PyStr) :
    unwrapped properties arguments wrapper = none := by
  rw [unwrapped.eq_def]
  split
  · rename_i key value
    have inside := declared (key, value) List.mem_cons_self
    rw [if_pos]
    by_cases same : key = wrapper
    · exact .inr (same ▸ inside)
    · exact .inl same
  · rfl

theorem unwrapWrapperArguments_declared (call : WrittenCall toolProperties) :
    unwrapWrapperArguments call.name call.arguments toolProperties = call.arguments := by
  rw [unwrapWrapperArguments, call.known]
  cases properties : call.properties with
  | nil => rfl
  | cons first others =>
      have declared := call.declared
      rw [properties] at declared
      dsimp only
      rw [unwrapped_declared declared, unwrapped_declared declared]
      rfl

def WrittenCall.read (call : WrittenCall toolProperties) : ParsedCall where
  name := call.name
  argumentsJson := canonicalJsonDumps (.dict call.arguments)
  nameNonBlank := nonBlank_of_validName call.valid

theorem removeNewline_line (text : PyStr) : removeNewline (text ++ [chr '\n']) = text := by
  rw [removeNewline, List.getLast?_concat, if_pos rfl, List.dropLast_concat]

theorem argumentLines_length {arguments : JsonObject}
    (written : ∀ argument ∈ arguments, WrittenArgument argument) :
    2 * arguments.length ≤ (argumentLines arguments).length := by
  induction arguments with
  | nil => exact Nat.zero_le _
  | cons argument arguments induction =>
      have later := induction fun other member => written other (List.mem_cons_of_mem _ member)
      rcases (written argument List.mem_cons_self).isArgument.split with
        ⟨key, flag, text, -, -, split⟩
      have here : 2 ≤ (encodeArgument argument.1 argument.2).length := by
        rw [split, List.length_append, argumentOpen_length]
        omega
      rw [argumentLines, List.flatMap_cons, List.length_append, List.length_cons, ← argumentLines,
        List.length_cons]
      omega

theorem parsePayload_lines (call : WrittenCall toolProperties) :
    parsePayload call.name
      (removeNewline ((argumentLines call.arguments ++ [chr '\n']).drop 1)) toolProperties =
        some (canonicalJsonDumps (.dict call.arguments)) := by
  cases arguments : call.arguments with
  | nil =>
      have empty : removeNewline ((argumentLines [] ++ [chr '\n']).drop 1) = [] := rfl
      have none : ¬parameterOpenPrefix <:+: ([] : PyStr) := by decide
      rw [empty, parsePayload, if_pos none]
      rfl
  | cons argument others =>
      have lines : argumentLines (argument :: others) = chr '\n' ::
          (encodeArgument argument.1 argument.2 ++ argumentLines others) := by
        rw [argumentLines, List.flatMap_cons]
        rfl
      have payload : removeNewline ((argumentLines (argument :: others) ++ [chr '\n']).drop 1) =
          encodeArgument argument.1 argument.2 ++ argumentLines others := by
        rw [lines, List.cons_append, List.drop_one, List.tail_cons, removeNewline_line]
      have written : ∀ other ∈ argument :: others, WrittenArgument other :=
        fun other member => call.argument (by rw [arguments]; exact member)
      have opens : parameterOpenPrefix <:+: encodeArgument argument.1 argument.2 ++
          argumentLines others := by
        rcases (written argument List.mem_cons_self).isArgument.split with
          ⟨key, flag, text, -, -, split⟩
        rw [split, argumentOpen]
        simp only [List.append_assoc]
        exact (List.prefix_append _ _).isInfix
      have skips : ∀ turns, parseParameters (turns + 1)
          (encodeArgument argument.1 argument.2 ++ argumentLines others) [] =
            parseParameters (turns + 1) (argumentLines (argument :: others)) [] := by
        intro turns
        rw [lines, parseParameters, parseParameters, lstrip_line]
      have distinct := call.distinct
      rw [arguments] at distinct
      have parsed := @parseParameters_lines (argument :: others) written [] distinct
      have unwrap := unwrapWrapperArguments_declared call
      rw [arguments] at unwrap
      rw [payload, parsePayload, if_neg (not_not.mpr opens), skips, parsed, Option.map_some,
        List.nil_append, unwrap]
      have bound := argumentLines_length written
      rw [lines, List.length_cons, List.length_cons] at bound
      rw [List.length_cons]
      omega

/-- The text of a call is read as the call. -/
theorem parseInvokeBody_call (call : WrittenCall toolProperties) :
    parseInvokeBody (callText call.name call.arguments) toolProperties = some call.read := by
  have quote := (quote_absent (name_free call.valid (by decide))
    (quoteClose ++ (argumentLines call.arguments ++ chr '\n' :: invokeClose))).find_here (by decide)
  have afterName : (call.name ++ (quoteClose ++
      (argumentLines call.arguments ++ chr '\n' :: invokeClose))).drop (call.name.length + 2) =
        argumentLines call.arguments ++ chr '\n' :: invokeClose := by
    rw [← List.append_assoc, show call.name.length + 2 = (call.name ++ quoteClose).length by
      rw [List.length_append]; rfl, List.drop_left]
  have line : (argumentLines call.arguments ++ chr '\n' :: invokeClose).head? =
      some (chr '\n') := by
    cases call.arguments with
    | nil => rfl
    | cons argument others => rfl
  have shape : callText call.name call.arguments = (invokeOpenPrefix ++ call.name ++ quoteClose ++
      (argumentLines call.arguments ++ [chr '\n'])) ++ invokeClose := by
    rw [callText]
    simp only [List.append_assoc, List.cons_append, List.nil_append]
  have closes : invokeClose <:+ callText call.name call.arguments := by
    rw [shape]
    exact List.suffix_append _ _
  have payload : (callText call.name call.arguments).slice
      (invokeOpenPrefix.length + call.name.length + 2 + 1)
      ((callText call.name call.arguments).length - invokeClose.length) =
        (argumentLines call.arguments ++ [chr '\n']).drop 1 := by
    have start : invokeOpenPrefix.length + call.name.length + 2 + 1 =
        (invokeOpenPrefix ++ call.name ++ quoteClose).length + 1 := by
      simp only [List.length_append]
      rfl
    rw [PyStr.slice, shape, @List.length_append _ (_ ++ _) invokeClose, Nat.add_sub_cancel,
      List.take_left, start, List.drop_length_add_append]
  have opens : invokeOpenPrefix <+: callText call.name call.arguments := List.prefix_append _ _
  have afterOpen : (callText call.name call.arguments).drop invokeOpenPrefix.length =
      call.name ++ (quoteClose ++ (argumentLines call.arguments ++ chr '\n' :: invokeClose)) :=
    List.drop_left
  rw [parseInvokeBody, if_neg (not_not.mpr opens)]
  dsimp only
  rw [afterOpen, quote]
  dsimp only
  simp only [List.take_left, call.valid, dif_pos]
  rw [if_neg (not_not.mpr closes), afterName, if_pos line, payload, parsePayload_lines]
  rfl

theorem callText_length (call : WrittenCall toolProperties) :
    invokeClose.length ≤ (callText call.name call.arguments).length := by
  rw [callText]
  simp only [List.length_append, List.length_cons]
  omega

theorem parseInvokes_lines {calls : List (WrittenCall toolProperties)} {read : List ParsedCall}
    {turns : Nat} (enough : calls.length < turns) :
    parseInvokes toolProperties turns (callLines calls ++ [chr '\n']) read =
      some (read ++ calls.map WrittenCall.read) := by
  induction calls generalizing read turns with
  | nil =>
      cases turns with
      | zero => cases enough
      | succ turns =>
          rw [parseInvokes, callLines, List.flatMap_nil, List.map_nil, List.append_nil]
          exact if_pos rfl
  | cons call calls induction =>
      cases turns with
      | zero => cases enough
      | succ turns =>
          have later := @induction (read ++ [call.read]) turns (by
            rw [List.length_cons] at enough
            omega)
          have text : callLines (call :: calls) ++ [chr '\n'] =
              chr '\n' :: (callText call.name call.arguments ++
                (callLines calls ++ [chr '\n'])) := by
            rw [callLines, List.flatMap_cons, List.append_assoc]
            rfl
          have opens : ∃ rest, callText call.name call.arguments ++
            (callLines calls ++ [chr '\n']) =
              invokeOpenPrefix ++ rest := by
            rw [callText, List.append_assoc]
            exact ⟨_, rfl⟩
          have close := (layout_call call (callLines calls ++ [chr '\n'])).findDsmlClose_eq
            (by decide)
          have ends : (callText call.name call.arguments).length - invokeClose.length +
              invokeClose.length = (callText call.name call.arguments).length :=
            Nat.sub_add_cancel (callText_length call)
          have stripped : PyStr.lstrip (callLines (call :: calls) ++ [chr '\n']) =
              callText call.name call.arguments ++ (callLines calls ++ [chr '\n']) := by
            rcases opens with ⟨rest, opens⟩
            rw [text, lstrip_line, opens, lstrip_tag (by decide)]
          have nonempty : callText call.name call.arguments ++ (callLines calls ++ [chr '\n']) ≠
              [] := by
            rcases opens with ⟨rest, opens⟩
            rw [opens]
            exact fun nil => absurd (List.append_eq_nil_iff.mp nil).1 (by decide)
          have starts : invokeOpenPrefix <+:
              callText call.name call.arguments ++ (callLines calls ++ [chr '\n']) := by
            rcases opens with ⟨rest, opens⟩
            rw [opens]
            exact List.prefix_append _ _
          rw [parseInvokes, stripped]
          rw [if_neg nonempty, if_neg (not_not.mpr starts), close.1]
          dsimp only
          rw [ends, List.take_left, parseInvokeBody_call]
          dsimp only
          rw [List.drop_left, later, List.map_cons, List.append_assoc]
          rfl

theorem callLines_length (calls : List (WrittenCall toolProperties)) :
    calls.length ≤ (callLines calls).length := by
  induction calls with
  | nil => exact Nat.zero_le _
  | cons call calls induction =>
      rw [callLines, List.flatMap_cons, List.length_append, List.length_cons, List.length_cons,
        ← callLines]
      omega

/-- The text of a block is read as its calls. -/
theorem parseToolBlock_block {calls : List (WrittenCall toolProperties)} (nonempty : calls ≠ []) :
    parseToolBlock (blockText calls) toolProperties = some (calls.map WrittenCall.read) := by
  have opens : toolBlockOpen <+: blockText calls := List.prefix_append _ _
  have shape : blockText calls =
      toolBlockOpen ++ (callLines calls ++ [chr '\n']) ++ toolBlockClose := by
    rw [blockText]
    simp only [List.append_assoc, List.cons_append, List.nil_append]
  have closes : toolBlockClose <:+ blockText calls := by
    rw [shape]
    exact List.suffix_append _ _
  have body : (blockText calls).slice toolBlockOpen.length
      ((blockText calls).length - toolBlockClose.length) = callLines calls ++ [chr '\n'] := by
    rw [PyStr.slice, shape, @List.length_append _ (_ ++ _) toolBlockClose, Nat.add_sub_cancel,
      List.take_left, List.drop_left]
  have parsed := @parseInvokes_lines _ calls [] ((callLines calls ++ [chr '\n']).length + 1) (by
    have bound := callLines_length calls
    rw [List.length_append]
    omega)
  rw [parseToolBlock, if_neg (not_or.mpr ⟨not_not.mpr opens, not_not.mpr closes⟩)]
  dsimp only
  rw [body, parsed, List.nil_append]
  cases calls with
  | nil => exact absurd rfl nonempty
  | cons call calls => rfl

theorem joinLines_calls (call : WrittenCall toolProperties)
    (calls : List (WrittenCall toolProperties)) :
    chr '\n' :: joinLines ((call :: calls).map fun call => callText call.name call.arguments) =
      callLines (call :: calls) := by
  rw [List.map_cons, joinLines_cons, List.flatMap_map, callLines, List.flatMap_cons]
  rfl

/-- `_encode_calls` writes the block behind two line breaks. -/
theorem encodeCalls_eq {calls : List (WrittenCall toolProperties)} (nonempty : calls ≠ []) :
    encodeCalls (calls.map fun call => ⟨call.name, call.argumentsJson⟩) =
      some (py "\n\n" ++ blockText calls) := by
  have encoded : (calls.map fun call => Call.mk call.name call.argumentsJson).mapM encodeCall =
      some (calls.map fun call => callText call.name call.arguments) := by
    clear nonempty
    induction calls with
    | nil => rfl
    | cons call calls induction =>
        rw [List.map_cons, List.mapM_cons, encodeCall_eq, induction]
        rfl
  cases calls with
  | nil => exact absurd rfl nonempty
  | cons call calls =>
      have lines := joinLines_calls call calls
      rw [encodeCalls, encoded, Option.map_some, blockText, ← lines]
      simp only [List.append_assoc, List.cons_append]
      rfl

end ExQServe.Model.DeepSeekV4
