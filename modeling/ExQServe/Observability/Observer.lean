import ExQServe.Core.Events
import ExQServe.Foundation.Machines

/-! # Observed sessions

The model of the accepted requests of `observability/observer.py`. An observed session is
suspended while it waits for the inner session's iterator, for its `cancel` or for the capture
to be written; everything between two suspensions is one step. Calls may overlap. The metrics
are the list of the calls that the registry has taken, and clock readings are whole numbers of
the clock's unit. -/

namespace ExQServe.Observability

open ExQServe.Model

/-! ## Metrics -/

inductive FinishedStatus
  | completed
  | failed
  | cancelled
deriving DecidableEq, Repr

inductive MetricCall
  | requestStarted
  | requestRejected
  | requestFailedBeforeStart
  | requestFinished (status : FinishedStatus) (elapsedSeconds : Int)
  | captureFailed
  | observeTtfe (elapsedSeconds : Int)
  | observeToolStart (elapsedSeconds : Int)
  | observeBackend (timing : GenerationTiming) (usage : TokenUsage)
  | recoveryAttempt (kind cause : PyStr)
  | recoverySuccess (kind cause : PyStr)
  | recoveryExhausted (kind cause : PyStr)
  | recoverySkipped (reason : PyStr)
  | unclassifiedTerminal (surface : PyStr)
deriving DecidableEq

namespace MetricCall

def isFinished : MetricCall → Bool
  | .requestFinished _ _ => true
  | _ => false

def elapsed? : MetricCall → Option Int
  | .requestFinished _ elapsedSeconds => some elapsedSeconds
  | .observeTtfe elapsedSeconds => some elapsedSeconds
  | .observeToolStart elapsedSeconds => some elapsedSeconds
  | _ => none

end MetricCall

/-- What the observer reads of an attempt and of a session's diagnostics; the enumerations
are their values. -/
structure AttemptDiagnostics where
  discarded : Bool
  failureCause : Option PyStr
deriving DecidableEq

structure SessionDiagnostics where
  recoveryAttempts : Nat
  recovered : Bool
  recoveryKind : Option PyStr
  attemptRecords : List AttemptDiagnostics
  finalSkipReason : Option PyStr
deriving DecidableEq

def originalCause (records : List AttemptDiagnostics) : PyStr :=
  match records.find? (·.discarded) with
  | some record => record.failureCause.getD (py "unknown")
  | none => py "unknown"

def recoveryCalls (diagnostics : SessionDiagnostics) : List MetricCall :=
  let kind := diagnostics.recoveryKind.getD (py "none")
  let cause := originalCause diagnostics.attemptRecords
  (if diagnostics.recoveryAttempts > 0 then
    .recoveryAttempt kind cause ::
      (if diagnostics.recovered then [.recoverySuccess kind cause] else [])
  else []) ++
  match diagnostics.finalSkipReason with
  | none => []
  | some skip =>
      if skip = [] then []
      else .recoverySkipped skip ::
        (if skip = py "attempt_budget_exhausted" then [.recoveryExhausted kind cause] else [])

def observeRecoveryMetrics (diagnostics : Option SessionDiagnostics)
    (error : Option CanonicalError) (surface : PyStr) (failed : Bool) : List MetricCall :=
  (match diagnostics with
  | none => []
  | some diagnostics => recoveryCalls diagnostics) ++
  match error with
  | none => []
  | some error => if failed ∧ error.cause = none then [.unclassifiedTerminal surface] else []

inductive SubmitOutcome
  | accepted
  | rejected (error : CanonicalError) (diagnostics : Option SessionDiagnostics)
  | raised
  | cancelled

/-- What `submit` counts; the raw engine has no diagnostics. -/
def submitMetrics (raw : Bool) : SubmitOutcome → List MetricCall
  | .accepted => [.requestStarted]
  | .rejected error diagnostics =>
      (if raw then []
      else observeRecoveryMetrics diagnostics (some error) (py "submission") false) ++
        [.requestRejected]
  | .raised => [.requestFailedBeforeStart]
  | .cancelled => []

/-! ## Sessions -/

variable {ε : Type}

/-- What a call raises besides `StopAsyncIteration` and `CancelledError`. -/
inductive CallFailure (ε : Type)
  | inner (error : ε)
  | valueError (message : String)
  | assertion
deriving DecidableEq

inductive CallResult (ε : Type)
  | delivered (event : ServingEvent)
  | stopAsyncIteration
  | iterationRaised (failure : CallFailure ε)
  | iterationCancelled
  | cancelReturned
  | cancelRaised (failure : CallFailure ε)
  | cancelCancelled
deriving DecidableEq

namespace CallResult

def raising (failure : CallFailure ε) : CallResult ε → CallResult ε
  | .delivered _ | .stopAsyncIteration | .iterationRaised _ | .iterationCancelled =>
      .iterationRaised failure
  | .cancelReturned | .cancelRaised _ | .cancelCancelled => .cancelRaised failure

def cancelled : CallResult ε → CallResult ε
  | .delivered _ | .stopAsyncIteration | .iterationRaised _ | .iterationCancelled =>
      .iterationCancelled
  | .cancelReturned | .cancelRaised _ | .cancelCancelled => .cancelCancelled

end CallResult

structure CaptureCall where
  status : FinishedStatus
  elapsedSeconds : Int
  usage : TokenUsage
  timing : GenerationTiming
  error : Option CanonicalError
  events : List ServingEvent
deriving DecidableEq

/-- The clock of the engine, by the number of its readings, and what of the capture manager
the session asks for. -/
structure ObserverConfig where
  clock : Nat → Int
  captureEnabled : Bool
  captureFull : Bool

structure ObservedSession (ε : Type) where
  clockReadings : Nat
  startedAt : Int
  capturedEvents : Option (List ServingEvent)
  firstSemanticSeen : Bool
  toolStartSeen : Bool
  terminal : Bool
  captureWritten : Bool
  terminalStatus : Option FinishedStatus
  terminalError : Option CanonicalError
  elapsedSeconds : Option Int
  timing : GenerationTiming
  usage : TokenUsage
  /-- What the registry was told, and what the capture manager was given. -/
  metrics : List MetricCall
  captures : List CaptureCall
  /-- Calls of `cancel` that wait for the inner session. -/
  cancelling : Nat
  /-- What the call that waits for the capture will end with. -/
  capturing : Option (CallResult ε)
  /-- What the calls that have ended ended with. -/
  results : List (CallResult ε)

namespace ObservedSession

def noTiming : GenerationTiming := ⟨none, none, none⟩

def noUsage : TokenUsage := ⟨none, none, none, none, by simp⟩

def new (config : ObserverConfig) (raw : Bool) : ObservedSession ε where
  clockReadings := 1
  startedAt := config.clock 0
  capturedEvents := if config.captureFull then some [] else none
  firstSemanticSeen := false
  toolStartSeen := false
  terminal := false
  captureWritten := false
  terminalStatus := none
  terminalError := none
  elapsedSeconds := none
  timing := noTiming
  usage := noUsage
  metrics := submitMetrics raw .accepted
  captures := []
  cancelling := 0
  capturing := none
  results := []

/-- The code between two suspensions; a failure is the `ValueError` of a metric. -/
abbrev Segment (ε : Type) := EStateM (CallFailure ε) (ObservedSession ε)

def readClock (config : ObserverConfig) : Segment ε Int := fun session =>
  .ok (config.clock session.clockReadings)
    { session with clockReadings := session.clockReadings + 1 }

def count (call : MetricCall) : Segment ε Unit := fun session =>
  if call.elapsed?.any (· < 0) then
    .error (.valueError "elapsed_seconds must be non-negative") session
  else .ok () { session with metrics := session.metrics ++ [call] }

def countAll (calls : List MetricCall) : Segment ε Unit := fun session =>
  .ok () { session with metrics := session.metrics ++ calls }

def finalize (config : ObserverConfig) (diagnostics : Option SessionDiagnostics)
    (status : FinishedStatus) (error : Option CanonicalError) : Segment ε Unit := do
  let session ← get
  if session.terminal then return ()
  else
    modify fun session => { session with
      terminal := true, terminalStatus := some status, terminalError := error }
    let elapsed := (← readClock config) - session.startedAt
    modify fun session => { session with elapsedSeconds := some elapsed }
    countAll [.observeBackend session.timing session.usage]
    countAll (observeRecoveryMetrics diagnostics error (py "serving") (status == .failed))
    count (.requestFinished status elapsed)

/-- `isinstance(event, _SEMANTIC_EVENTS)` -/
def isSemantic : ServingEvent → Bool
  | .semantic _ => true
  | _ => false

def isToolCallStarted : ServingEvent → Bool
  | .semantic (.toolCallStarted _ _ _ _) => true
  | _ => false

def observeSemantic (config : ObserverConfig) (event : ServingEvent) :
    Segment ε (Option Int) := do
  let session ← get
  if isSemantic event ∧ session.firstSemanticSeen = false then
    let now ← readClock config
    modify fun session => { session with firstSemanticSeen := true }
    count (.observeTtfe (now - session.startedAt))
    return some now
  else return none

def toolClock (config : ObserverConfig) : Option Int → Segment ε Int
  | some semanticNow => pure semanticNow
  | none => readClock config

def observeTool (config : ObserverConfig) (event : ServingEvent) (semanticNow : Option Int) :
    Segment ε Unit := do
  let session ← get
  if isToolCallStarted event ∧ session.toolStartSeen = false then
    let now ← toolClock config semanticNow
    modify fun session => { session with toolStartSeen := true }
    count (.observeToolStart (now - session.startedAt))
  else return ()

def observe (config : ObserverConfig) (diagnostics : Option SessionDiagnostics)
    (event : ServingEvent) : Segment ε Unit := do
  let semanticNow ← observeSemantic config event
  observeTool config event semanticNow
  match event with
  | .timingUpdated _ timing => modify fun session => { session with timing := timing }
  | .usageUpdated _ usage => modify fun session => { session with usage := usage }
  | .generationCompleted _ _ usage _ => do
      modify fun session => { session with usage := usage.getD session.usage }
      finalize config diagnostics .completed none
  | .generationFailed _ error => finalize config diagnostics .failed (some error)
  | .generationCancelled _ => finalize config diagnostics .cancelled none
  | .generationStarted _ | .semantic _ => return ()

/-! ## Steps -/

def deliver (result : CallResult ε) (session : ObservedSession ε) : ObservedSession ε :=
  { session with results := session.results ++ [result] }

/-- `_write_capture` up to its suspension, in a call that will end with `result`. -/
def writeCapture (config : ObserverConfig) (result : CallResult ε)
    (session : ObservedSession ε) : ObservedSession ε :=
  if session.captureWritten then session.deliver result
  else
    let written := { session with captureWritten := true }
    if config.captureEnabled then
      match session.terminalStatus, session.elapsedSeconds with
      | some status, some elapsed =>
          { written with
            captures := session.captures ++ [⟨status, elapsed, session.usage, session.timing,
              session.terminalError, session.capturedEvents.getD []⟩]
            capturing := some result }
      | _, _ => written.deliver (result.raising .assertion)
    else written.deliver result

def after (segment : Segment ε Unit) (result : CallResult ε)
    (following : ObservedSession ε → ObservedSession ε) (session : ObservedSession ε) :
    ObservedSession ε :=
  match segment session with
  | .error failure session => session.deliver (result.raising failure)
  | .ok _ session => following session

inductive IterationOutcome (ε : Type)
  | event (event : ServingEvent)
  | stopAsyncIteration
  | raised (error : ε)
  | cancelled
deriving DecidableEq

inductive Action (ε : Type)
  | iterationEnded (outcome : IterationOutcome ε) (diagnostics : Option SessionDiagnostics)
  | cancelCalled
  | cancelEnded (outcome : TaskOutcome ε Unit) (diagnostics : Option SessionDiagnostics)
  | captureEnded (outcome : TaskOutcome ε Unit)
deriving DecidableEq

/-- `_finalize` and `_write_capture` where the iteration or `cancel` is left. -/
def finish (config : ObserverConfig) (diagnostics : Option SessionDiagnostics)
    (status : FinishedStatus) (result : CallResult ε) (session : ObservedSession ε) :
    ObservedSession ε :=
  after (finalize config diagnostics status none) result (writeCapture config result) session

def iterationStep (config : ObserverConfig) (diagnostics : Option SessionDiagnostics)
    (session : ObservedSession ε) : IterationOutcome ε → ObservedSession ε
  | .event event =>
      let captured := { session with capturedEvents := session.capturedEvents.map (· ++ [event]) }
      after (observe config diagnostics event) (.delivered event) (fun session =>
        if session.terminal then session.writeCapture config (.delivered event)
        else session.deliver (.delivered event)) captured
  | .stopAsyncIteration =>
      if session.terminal then session.deliver .stopAsyncIteration
      else session.finish config diagnostics .failed .stopAsyncIteration
  | .raised error =>
      if session.terminal then session.deliver (.iterationRaised (.inner error))
      else session.finish config diagnostics .failed (.iterationRaised (.inner error))
  -- `except Exception` does not see a `CancelledError`.
  | .cancelled => session.deliver .iterationCancelled

def cancelStep (config : ObserverConfig) (diagnostics : Option SessionDiagnostics)
    (session : ObservedSession ε) : TaskOutcome ε Unit → ObservedSession ε
  | .returned _ => session.finish config diagnostics .cancelled .cancelReturned
  | .raised error => session.finish config diagnostics .failed (.cancelRaised (.inner error))
  | .cancelled => session.deliver .cancelCancelled

def captureStep (session : ObservedSession ε) (result : CallResult ε) :
    TaskOutcome ε Unit → ObservedSession ε
  | .returned _ => session.deliver result
  | .raised _ =>
      deliver result { session with metrics := session.metrics ++ [.captureFailed] }
  | .cancelled => session.deliver result.cancelled

def step (config : ObserverConfig) (session : ObservedSession ε) :
    Action ε → Option (ObservedSession ε)
  | .iterationEnded outcome diagnostics =>
      some (session.iterationStep config diagnostics outcome)
  | .cancelCalled =>
      if session.terminal then some (session.deliver .cancelReturned)
      else some { session with cancelling := session.cancelling + 1 }
  | .cancelEnded outcome diagnostics =>
      match session.cancelling with
      | 0 => none
      | cancelling + 1 =>
          some ({ session with cancelling := cancelling }.cancelStep config diagnostics outcome)
  | .captureEnded outcome =>
      match session.capturing with
      | none => none
      | some result => some ({ session with capturing := none }.captureStep result outcome)

def machine (ε : Type) (config : ObserverConfig) (raw : Bool) :
    Machine (ObservedSession ε) (Action ε) where
  initial := new config raw
  step := step config

end ObservedSession

end ExQServe.Observability
