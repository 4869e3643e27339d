import ExQServe.Agent.Float
import ExQServe.Core.Errors

/-! # Runtime contracts

The part of `runtime/contracts.py` that request control and recovery read. -/

namespace ExQServe.Runtime

open ExQServe.Model

/-- Of the two constraints only the presence is read. -/
@[ext] structure RuntimeGenerationRequest where
  requestId : PyStr
  inputIds : List Nat
  maxNewTokens : Nat
  outputJsonSchema : Option PyStr
  generationConstraint : Option PyStr
  requestIdNonBlank : NonBlank requestId
  inputIdsNonEmpty : inputIds ≠ []
  maxNewTokensPositive : 0 < maxNewTokens

instance : DecidableEq RuntimeGenerationRequest := fun _ _ =>
  decidable_of_iff' _ RuntimeGenerationRequest.ext_iff

inductive RuntimeStopReason
  | eos
  | stopString
  | length
  | filter
  | loop
  | other
deriving DecidableEq, Repr

inductive RuntimeEvent
  | started
  | textDelta (text : PyStr)
  | finished (reason : RuntimeStopReason)
  | cancelled
  | failed (error : CanonicalError)
deriving DecidableEq

inductive RuntimeReadinessResult
  | ready
  | failed
  | deadline
  | closed
deriving DecidableEq, Repr

def RuntimeReadinessResult.value : RuntimeReadinessResult → String
  | .ready => "ready"
  | .failed => "failed"
  | .deadline => "deadline"
  | .closed => "closed"

structure RuntimeCapabilities where
  freshAttemptReplay : Bool
  recoveryReadiness : Bool
  promptAttachmentReplay : Bool
deriving DecidableEq, Repr

structure RuntimeSamplingConfig where
  temperature : PyFloat
deriving DecidableEq

end ExQServe.Runtime
