import ExQServe.Agent.Float
import ExQServe.Core.Errors

/-! # Generation events

The model of `core/events.py`, `core/usage.py` and `core/timing.py`. The events that a
parser emits are those of the parser contracts. -/

namespace ExQServe

open ExQServe.Model

/-- `none` means that there is no trustworthy measurement. -/
structure TokenUsage where
  inputTokens : Option Nat
  cachedInputTokens : Option Nat
  outputTokens : Option Nat
  reasoningTokens : Option Nat
  cachedWithinInput : ∀ input ∈ inputTokens, ∀ cached ∈ cachedInputTokens, cached ≤ input
deriving DecidableEq

structure GenerationTiming where
  queueSeconds : Option PyFloat
  prefillSeconds : Option PyFloat
  generationSeconds : Option PyFloat
deriving DecidableEq

inductive CompletionReason
  | stop
  | length
  | toolCalls
  | filter
deriving DecidableEq, Repr

def CompletionReason.value : CompletionReason → PyStr
  | .stop => py "stop"
  | .length => py "length"
  | .toolCalls => py "tool_calls"
  | .filter => py "filter"

def CompletionReason.members : List CompletionReason := [.stop, .length, .toolCalls, .filter]

inductive ServingEvent
  | generationStarted (requestId : PyStr)
  | generationCompleted (requestId : PyStr) (reason : CompletionReason) (usage : Option TokenUsage)
      (stopSequence : Option PyStr)
  | generationCancelled (requestId : PyStr)
  | generationFailed (requestId : PyStr) (error : CanonicalError)
  | semantic (event : GenerationEvent)
  | timingUpdated (requestId : PyStr) (timing : GenerationTiming)
  | usageUpdated (requestId : PyStr) (usage : TokenUsage)
deriving DecidableEq

namespace ServingEvent

def isTerminal : ServingEvent → Bool
  | .generationCompleted _ _ _ _ | .generationCancelled _ | .generationFailed _ _ => true
  | _ => false

def isStarted : ServingEvent → Bool
  | .generationStarted _ => true
  | _ => false

def isToolCallCompleted : ServingEvent → Bool
  | .semantic (.toolCallCompleted _ _) => true
  | _ => false

end ServingEvent

end ExQServe
