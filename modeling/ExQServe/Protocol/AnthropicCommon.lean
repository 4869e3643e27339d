import ExQServe.Agent.Tools
import ExQServe.Core.Events

/-! # Errors and usage on the Anthropic wire

The model of `protocol/anthropic/common.py`, without the parsed request. -/

namespace ExQServe.Anthropic

open ExQServe.Model

structure AnthropicProtocolError where
  statusCode : Nat
  type : PyStr
  message : PyStr
  exqserveCode : Option PyStr
deriving DecidableEq

def AnthropicProtocolError.toBody (error : AnthropicProtocolError) (requestId : PyStr) :
    JsonObject :=
  [(py "type", .str (py "error")),
    (py "error", .dict ([(py "type", .str error.type), (py "message", .str error.message)] ++
      match error.exqserveCode with
      | none => []
      | some code => [(py "exqserve_code", .str code)])),
    (py "request_id", .str requestId)]

/-- The constructor refuses a blank message; the other texts are never blank here. -/
def protocolError (statusCode : Nat) (type message : PyStr) (exqserveCode : Option PyStr) :
    Option AnthropicProtocolError :=
  if NonBlank message then some ⟨statusCode, type, message, exqserveCode⟩ else none

/-- `map_canonical_error`; `none` where the error's constructor raises. -/
def mapCanonicalError (error : CanonicalError) : Option AnthropicProtocolError :=
  let diagnosticCode :=
    (publicErrorCode error).or (if error.cause = none then none else some error.code)
  match error.category with
  | .overloaded => protocolError 529 (py "overloaded_error") error.message diagnosticCode
  | .invalidRequest | .unsupportedCapability | .contextLength =>
      protocolError 400 (py "invalid_request_error") error.message diagnosticCode
  | .modelFailure | .runtimeFailure | .internal =>
      protocolError 500 (py "api_error") error.message diagnosticCode

def anthropicUsage : Option TokenUsage → JsonObject
  | none => [(py "input_tokens", .int 0), (py "output_tokens", .int 0)]
  | some usage =>
      let inputTotal := usage.inputTokens.getD 0
      let cached := usage.cachedInputTokens.getD 0
      [(py "input_tokens", .int (inputTotal - cached : Nat)),
        (py "output_tokens", .int (usage.outputTokens.getD 0))] ++
        match usage.cachedInputTokens with
        | none => []
        | some _ => [(py "cache_read_input_tokens", .int cached),
            (py "cache_creation_input_tokens", .int 0)]

end ExQServe.Anthropic
