import ExQServe.Model.Contracts

/-! # Serving errors

The model of `core/errors.py`. -/

namespace ExQServe

open ExQServe.Model

inductive FailureCause
  | outputEos
  | outputLength
  | parserAmbiguityLimit
  | runtimeRecovering
  | restartRequired
  | constraintFailure
  | modelToolOutputInvalid
deriving DecidableEq, Repr

def FailureCause.value : FailureCause → PyStr
  | .outputEos => py "output_eos"
  | .outputLength => py "output_length"
  | .parserAmbiguityLimit => py "parser_ambiguity_limit"
  | .runtimeRecovering => py "runtime_recovering"
  | .restartRequired => py "restart_required"
  | .constraintFailure => py "constraint_failure"
  | .modelToolOutputInvalid => py "model_tool_output_invalid"

def FailureCause.members : List FailureCause :=
  [.outputEos, .outputLength, .parserAmbiguityLimit, .runtimeRecovering, .restartRequired,
    .constraintFailure, .modelToolOutputInvalid]

inductive ErrorCategory
  | invalidRequest
  | unsupportedCapability
  | contextLength
  | overloaded
  | modelFailure
  | runtimeFailure
  | internal
deriving DecidableEq, Repr

def ErrorCategory.value : ErrorCategory → PyStr
  | .invalidRequest => py "invalid_request"
  | .unsupportedCapability => py "unsupported_capability"
  | .contextLength => py "context_length"
  | .overloaded => py "overloaded"
  | .modelFailure => py "model_failure"
  | .runtimeFailure => py "runtime_failure"
  | .internal => py "internal"

def ErrorCategory.members : List ErrorCategory :=
  [.invalidRequest, .unsupportedCapability, .contextLength, .overloaded, .modelFailure,
    .runtimeFailure, .internal]

/-- Safe error information crossing serving-layer boundaries. -/
@[ext] structure CanonicalError where
  category : ErrorCategory
  code : PyStr
  message : PyStr
  retryable : Bool
  cause : Option FailureCause
  codeNonBlank : NonBlank code

instance : DecidableEq CanonicalError := fun _ _ => decidable_of_iff' _ CanonicalError.ext_iff

def publicErrorCode (error : CanonicalError) : Option PyStr :=
  if error.category = .contextLength then some (py "context_length_exceeded") else none

end ExQServe
