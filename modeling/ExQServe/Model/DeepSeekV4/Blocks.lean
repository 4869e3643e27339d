import ExQServe.Agent.Tools
import ExQServe.Foundation.Dict
import ExQServe.Model.Content
import ExQServe.Model.DeepSeekV4.Scanning

/-! # DSML tool blocks

How `model/deepseek_v4.py` writes calls and parses the invokes of a block. -/

namespace ExQServe.Model.DeepSeekV4

open ExQServe.Search

/-! ## Parser context -/

abbrev ToolProperties := Dict PyStr (List PyStr)

structure DeepSeekV4ParserContext where
  toolsEnabled : Bool
  toolProperties : ToolProperties
deriving DecidableEq

/-- `_exposed_tools`, without the order that the prompt needs. -/
def exposedTools (policy : ToolPolicy) : List FunctionTool :=
  match policy.choice.mode with
  | .none => []
  | .named => policy.tools.filter fun tool => some tool.name = policy.choice.name
  | _ => policy.tools

def declaredNames (schema : JsonObject) : List PyStr :=
  match schema.get? (py "properties") with
  | some (.dict declared) => (declared.map Prod.fst).filter fun key => decide (key ≠ [])
  | _ => []

def deepseekV4ParserContext (policy : ToolPolicy) : DeepSeekV4ParserContext where
  toolsEnabled := decide (exposedTools policy ≠ [])
  toolProperties := (exposedTools policy).foldl (fun properties tool =>
    properties.set tool.name (declaredNames tool.parameters.document)) .empty

/-! ## Writing calls -/

mutual

/-- `_json_dump`: keys in their order, separators with spaces, no ASCII escaping. -/
def jsonDump : JsonValue → PyStr
  | .null => py "null"
  | .bool true => py "true"
  | .bool false => py "false"
  | .int value => Json.dumpsInt value
  | .float value => value.repr
  | .str value => Json.dumpsString value
  | .list [] => py "[]"
  | .list (item :: items) => chr '[' :: (jsonDump item ++ (dumpItems items ++ py "]"))
  | .dict [] => py "\x7b\x7d"
  | .dict ((key, value) :: entries) =>
      chr '\x7b' :: (Json.dumpsString key ++ (py ": " ++ (jsonDump value ++
        (dumpEntries entries ++ py "\x7d"))))

def dumpItems : List JsonValue → PyStr
  | [] => []
  | item :: items => py ", " ++ (jsonDump item ++ dumpItems items)

def dumpEntries : List (PyStr × JsonValue) → PyStr
  | [] => []
  | (key, value) :: entries =>
      py ", " ++ (Json.dumpsString key ++ (py ": " ++ (jsonDump value ++ dumpEntries entries)))

end

structure Call where
  name : PyStr
  argumentsJson : PyStr
deriving DecidableEq

def encodeArgument (key : PyStr) (value : JsonValue) : PyStr :=
  match value with
  | .str text =>
      parameterOpenPrefix ++ key ++ py "\" string=\"true\">" ++ text ++ parameterClose
  | value =>
      parameterOpenPrefix ++ key ++ py "\" string=\"false\">" ++ jsonDump value ++ parameterClose

def joinLines : List PyStr → PyStr
  | [] => []
  | [part] => part
  | part :: parts => part ++ chr '\n' :: joinLines parts

def encodeCall (call : Call) : Option PyStr :=
  match parseJsonStrict call.argumentsJson with
  | some (.dict arguments) =>
      if ∃ argument ∈ arguments, argument.1 = [] then none
      else some (joinLines ((invokeOpenPrefix ++ call.name ++ quoteClose) ::
        (arguments.map (fun argument => encodeArgument argument.1 argument.2) ++ [invokeClose])))
  | _ => none

def encodeCalls (calls : List Call) : Option PyStr :=
  (calls.mapM encodeCall).map fun encoded =>
    py "\n\n" ++ toolBlockOpen ++ py "\n" ++ joinLines encoded ++ py "\n" ++ toolBlockClose

/-! ## Parsing blocks -/

def forbiddenInName (char : PyChar) : Bool :=
  char.isSpace || char == chr '<' || char == chr '>' || char == chr '"'

def validName (value : PyStr) : Bool := decide (value ≠ []) && !value.any forbiddenInName

theorem nonBlank_of_validName {name : PyStr} (valid : validName name = true) : NonBlank name := by
  rw [validName, Bool.and_eq_true, decide_eq_true_eq] at valid
  cases name with
  | nil => exact absurd rfl valid.1
  | cons char name =>
      apply nonBlank_iff.mpr
      refine ⟨char, List.mem_cons_self, ?_⟩
      cases space : char.isSpace with
      | false => rfl
      | true =>
          have bad := valid.2
          rw [List.any_cons, forbiddenInName, space] at bad
          cases bad

/-- `dict` of the items that the wrapper holds, if it may be unwrapped. -/
def unwrapped (properties : List PyStr) (arguments : JsonObject) (wrapper : PyStr) :
    Option JsonObject :=
  match arguments with
  | [(key, value)] =>
      if key ≠ wrapper ∨ wrapper ∈ properties then none
      else
        let inner := match value with
          | .str text => parseJsonStrict text
          | value => some value
        match inner with
        | some (.dict entries) =>
            if ∀ entry ∈ entries, entry.1 ∈ properties then some entries else none
        | _ => none
  | _ => none

def unwrapWrapperArguments (toolName : PyStr) (arguments : JsonObject)
    (toolProperties : ToolProperties) : JsonObject :=
  match toolProperties.get? toolName with
  | none | some [] => arguments
  | some properties =>
      ((unwrapped properties arguments (py "arguments")).orElse fun _ =>
        unwrapped properties arguments (py "input")).getD arguments

def parseParameters : Nat → PyStr → JsonObject → Option JsonObject
  | 0, _, _ => none
  | turns + 1, payload, arguments =>
      let payload := payload.lstrip
      if payload = [] then some arguments
      else if ¬parameterOpenPrefix <+: payload then none
      else
        let afterOpen := payload.drop parameterOpenPrefix.length
        match find stringFlag afterOpen with
        | none => none
        | some keyEnd =>
            let key := afterOpen.take keyEnd
            if key = [] ∨ key ∈ arguments.keys then none
            else
              let afterKey := afterOpen.drop (keyEnd + stringFlag.length)
              match find quoteClose afterKey with
              | none => none
              | some flagEnd =>
                  let flag := afterKey.take flagEnd
                  let afterFlag := afterKey.drop (flagEnd + 2)
                  if flag = py "true" then
                    match find parameterClose afterFlag with
                    | none => none
                    | some valueEnd =>
                        parseParameters turns (afterFlag.drop (valueEnd + parameterClose.length))
                          (arguments ++ [(key, .str (afterFlag.take valueEnd))])
                  else if flag = py "false" then
                    match findJsonParameterClose afterFlag 0 with
                    | none => none
                    | some valueEnd =>
                        match parseJsonStrict (PyStr.strip (afterFlag.take valueEnd)) with
                        | none => none
                        | some value =>
                            parseParameters turns
                              (afterFlag.drop (valueEnd + parameterClose.length))
                              (arguments ++ [(key, value)])
                  else none

/-- `text.removesuffix("\n")` -/
def removeNewline (text : PyStr) : PyStr :=
  if text.getLast? = some (chr '\n') then text.dropLast else text

def parsePayload (name payload : PyStr) (toolProperties : ToolProperties) : Option PyStr :=
  if ¬parameterOpenPrefix <:+: payload then
    let stripped := payload.strip
    if stripped = [] then some (py "\x7b\x7d")
    else
      match parseJsonStrict stripped with
      | some (.dict direct) =>
          some (canonicalJsonDumps (.dict (unwrapWrapperArguments name direct toolProperties)))
      | _ => none
  else
    (parseParameters (payload.length + 1) payload []).map fun arguments =>
      canonicalJsonDumps (.dict (unwrapWrapperArguments name arguments toolProperties))

/-- `_parse_invoke_body`; `none` stands for the `ValueError`. -/
def parseInvokeBody (body : PyStr) (toolProperties : ToolProperties) : Option ParsedCall :=
  if ¬invokeOpenPrefix <+: body then none
  else
    let afterOpen := body.drop invokeOpenPrefix.length
    match find quoteClose afterOpen with
    | none => none
    | some nameEnd =>
        let name := afterOpen.take nameEnd
        if valid : validName name = true then
          let afterName := afterOpen.drop (nameEnd + 2)
          let skipped := if afterName.head? = some (chr '\n') then 1 else 0
          if ¬invokeClose <:+ body then none
          else
            -- The slice is empty where the close begins before the cursor.
            let start := invokeOpenPrefix.length + nameEnd + 2 + skipped
            let payload := removeNewline (body.slice start (body.length - invokeClose.length))
            (parsePayload name payload toolProperties).map fun arguments =>
              ⟨name, arguments, nonBlank_of_validName valid⟩
        else none

def parseInvokes (toolProperties : ToolProperties) : Nat → PyStr → List ParsedCall →
    Option (List ParsedCall)
  | 0, _, _ => none
  | turns + 1, body, calls =>
      let body := body.lstrip
      if body = [] then some calls
      else if ¬invokeOpenPrefix <+: body then none
      else
        match (findDsmlClose body invokeClose 0 none).1 with
        | none => none
        | some close =>
            match parseInvokeBody (body.take (close + invokeClose.length)) toolProperties with
            | none => none
            | some call =>
                parseInvokes toolProperties turns (body.drop (close + invokeClose.length))
                  (calls ++ [call])

/-- `_parse_tool_block`; `none` stands for the `ValueError`. -/
def parseToolBlock (block : PyStr) (toolProperties : ToolProperties) : Option (List ParsedCall) :=
  if ¬toolBlockOpen <+: block ∨ ¬toolBlockClose <:+ block then none
  else
    let body := block.slice toolBlockOpen.length (block.length - toolBlockClose.length)
    match parseInvokes toolProperties (body.length + 1) body [] with
    | none | some [] => none
    | some calls => some calls

end ExQServe.Model.DeepSeekV4
