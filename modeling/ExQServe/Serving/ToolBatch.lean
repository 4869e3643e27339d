import ExQServe.Agent.Validation
import ExQServe.Core.Events

/-! # The tool-call batch gate

The model of `serving/tool_batch.py` and of the dispatch in `serving/engine.py` that
hands it events. From the first completed call on, everything accepted is held back until
the batch is committed, so what leaves the gate is what was accepted, in its order. -/

namespace ExQServe.Serving

open ExQServe.Model

def modelToolOutputInvalidCodes : List ValidationCode :=
  [.invalidJson, .duplicateJsonKey, .jsonValueNotObject, .schemaValidationFailed]

def toolCallInvalidCodes : List ValidationCode :=
  modelToolOutputInvalidCodes ++ [.duplicateToolCallId, .invalidToolCallOrder]

def toolValidationFailure (result : ValidationResult) : String × String :=
  if result.issues.any fun issue => decide (issue.code ∈ toolCallInvalidCodes) then
    ("tool_call_invalid", "Model produced an invalid tool call.")
  else
    ("tool_policy_violation", "Model output violated the requested tool policy.")

inductive BatchLifecycle
  | opened
  | committed
  | aborted
deriving DecidableEq, Repr

structure BatchFailure where
  code : String
  message : String
  validationIssues : List ValidationIssue
deriving DecidableEq

structure BatchDecision where
  events : List ServingEvent
  failure : Option BatchFailure
deriving DecidableEq

def BatchDecision.refuse (code message : String) (issues : List ValidationIssue) : BatchDecision :=
  ⟨[], some ⟨code, message, issues⟩⟩

structure ToolBatchConfig where
  policy : ToolPolicy
  toolCallFanoutLimit : Nat
  atomicParallelTools : Bool
  constrainedParallelToolCallLimit : Nat
  fanoutLimitPositive : 0 < toolCallFanoutLimit
  constrainedLimitPositive : 0 < constrainedParallelToolCallLimit

def ToolBatchConfig.effectiveLimit (config : ToolBatchConfig) : Nat :=
  if config.atomicParallelTools then
    min config.toolCallFanoutLimit config.constrainedParallelToolCallLimit
  else config.toolCallFanoutLimit

structure ToolCallBatchGate where
  acceptedCallIds : List PyStr
  completedCalls : List ToolCallItem
  bufferedEvents : List ServingEvent
  lifecycle : BatchLifecycle
deriving DecidableEq

namespace ToolCallBatchGate

def initial : ToolCallBatchGate := ⟨[], [], [], .opened⟩

/-- `_ensure_open` raised an objection. -/
def finalized : BatchDecision :=
  .refuse "tool_call_stream_invalid"
    "Model produced Tool Call events after the Tool Call batch was finalized." []

def buffer (gate : ToolCallBatchGate) (event : ServingEvent) : ToolCallBatchGate :=
  { gate with bufferedEvents := gate.bufferedEvents ++ [event] }

def acceptEvent (config : ToolBatchConfig) (gate : ToolCallBatchGate) (event : ServingEvent) :
    BatchDecision × ToolCallBatchGate :=
  if config.atomicParallelTools || !gate.bufferedEvents.isEmpty then
    (⟨[], none⟩, gate.buffer event)
  else (⟨[event], none⟩, gate)

def onStarted (config : ToolBatchConfig) (gate : ToolCallBatchGate)
    (requestId callId name : PyStr) (index : Nat) : BatchDecision × ToolCallBatchGate :=
  if gate.lifecycle ≠ .opened then (finalized, gate)
  else if callId ∈ gate.acceptedCallIds then
    (.refuse "tool_call_stream_invalid" "Model produced a duplicate tool-call start event." [],
      gate)
  else if config.effectiveLimit ≤ gate.acceptedCallIds.length then
    (.refuse "tool_policy_violation" "Model output exceeded the server tool-call policy." [], gate)
  else
    { gate with acceptedCallIds := gate.acceptedCallIds ++ [callId] }.acceptEvent config
      (.semantic (.toolCallStarted requestId callId name index))

def onArgumentsDelta (config : ToolBatchConfig) (gate : ToolCallBatchGate)
    (requestId callId delta : PyStr) (index : Nat) : BatchDecision × ToolCallBatchGate :=
  if gate.lifecycle ≠ .opened then (finalized, gate)
  else if callId ∉ gate.acceptedCallIds then
    (.refuse "tool_call_stream_invalid"
      "Model produced tool arguments before an accepted tool call start." [], gate)
  else gate.acceptEvent config (.semantic (.toolCallArgumentsDelta requestId callId delta index))

/-- `none` where validation raises, which changes nothing. -/
def onCompleted (outside : ValidationSurroundings) (config : ToolBatchConfig)
    (gate : ToolCallBatchGate) (requestId : PyStr) (call : ToolCallItem) :
    Option (BatchDecision × ToolCallBatchGate) :=
  if gate.lifecycle ≠ .opened then some (finalized, gate)
  else if call.callId ∉ gate.acceptedCallIds then
    some (.refuse "tool_call_stream_invalid" "Model completed a tool call that was not accepted."
      [], gate)
  else
    let candidateCalls := gate.completedCalls ++ [call]
    (validateToolCallsWithCanonicalArguments outside candidateCalls config.policy).map
      fun validation =>
        if validation.result.isValid then
          (⟨[], none⟩,
            { gate with completedCalls := candidateCalls }.buffer
              (.semantic (.toolCallCompleted requestId call)))
        else
          let failure := toolValidationFailure validation.result
          (.refuse failure.1 failure.2 validation.result.issues, gate)

def onPassthrough (gate : ToolCallBatchGate) (event : ServingEvent) :
    BatchDecision × ToolCallBatchGate :=
  if gate.lifecycle ≠ .opened then (finalized, gate)
  else if gate.bufferedEvents.isEmpty then (⟨[event], none⟩, gate)
  else (⟨[], none⟩, gate.buffer event)

def commitEvents (gate : ToolCallBatchGate) : List ServingEvent × ToolCallBatchGate :=
  if gate.lifecycle ≠ .opened then ([], gate)
  else (gate.bufferedEvents, { gate with lifecycle := .committed, bufferedEvents := [] })

def abort (gate : ToolCallBatchGate) : ToolCallBatchGate :=
  if gate.lifecycle = .committed then gate
  else { gate with lifecycle := .aborted, bufferedEvents := [] }

/-- The dispatch of `_process_semantic`: only what is no tool event passes through. -/
def process (outside : ValidationSurroundings) (config : ToolBatchConfig)
    (gate : ToolCallBatchGate) :
    ServingEvent → Option (BatchDecision × ToolCallBatchGate)
  | .semantic (.toolCallStarted requestId callId name index) =>
      some (gate.onStarted config requestId callId name index)
  | .semantic (.toolCallArgumentsDelta requestId callId delta index) =>
      some (gate.onArgumentsDelta config requestId callId delta index)
  | .semantic (.toolCallCompleted requestId call) =>
      gate.onCompleted outside config requestId call
  | event => some (gate.onPassthrough event)

end ToolCallBatchGate

/-! ## Runs -/

/-- An event that is dispatched, or one that is handed to `on_passthrough`, which is never a
completed call. -/
inductive GateEvent
  | dispatched (event : ServingEvent)
  | passthrough (event : ServingEvent) (other : event.isToolCallCompleted = false)

def GateEvent.event : GateEvent → ServingEvent
  | .dispatched event => event
  | .passthrough event _ => event

def GateEvent.serve (outside : ValidationSurroundings) (config : ToolBatchConfig)
    (gate : ToolCallBatchGate) : GateEvent → Option (BatchDecision × ToolCallBatchGate)
  | .dispatched event => gate.process outside config event
  | .passthrough event _ => some (gate.onPassthrough event)

inductive GateCall
  | event (event : GateEvent)
  | commitEvents
  | abort

/-- A gate, the events whose decision carried no failure, and the events it returned. -/
structure GateRun where
  gate : ToolCallBatchGate
  accepted : List ServingEvent
  returned : List ServingEvent
deriving DecidableEq

namespace GateRun

def initial : GateRun := ⟨.initial, [], []⟩

variable (outside : ValidationSurroundings) (config : ToolBatchConfig)

def serve (run : GateRun) : GateCall → GateRun
  | .event event =>
      match event.serve outside config run.gate with
      | none => run
      | some (decision, gate) =>
          ⟨gate, if decision.failure = none then run.accepted ++ [event.event] else run.accepted,
            run.returned ++ decision.events⟩
  | .commitEvents =>
      ⟨run.gate.commitEvents.2, run.accepted, run.returned ++ run.gate.commitEvents.1⟩
  | .abort => ⟨run.gate.abort, run.accepted, run.returned⟩

def serveAll (run : GateRun) (calls : List GateCall) : GateRun :=
  calls.foldl (serve outside config) run

end GateRun

end ExQServe.Serving
