import ExQServe.Control.Request

/-! # Controlled sessions

The methods of `control/request.py` as tasks. An await of the runtime, and of the lock,
ends as the surroundings say: with a result, with an exception, or with the
cancellation of the task. -/

namespace ExQServe.Control

open ExQServe.Model ExQServe.Runtime

inductive Delivery
  | event (event : RuntimeEvent)
  | stop
  | raised
  | interrupted
deriving DecidableEq

/-- Which of the next event and the deadline comes first. -/
inductive Wake
  | event
  | deadline
  | interrupted
deriving DecidableEq, Repr

structure Surroundings (τ : Type) where
  now : τ
  interrupted : Bool
  submission : RequestController.Submission
  cancelRaises : Bool
  injectionAccepted : Bool
  delivery : Delivery
  wake : Wake

inductive ControlCall
  | acquire (requestId : PyStr)
  | submit (request : RuntimeGenerationRequest)
  | leaseSubmit (lease : Nat) (request : RuntimeGenerationRequest)
  | leaseSubmitFinal (lease : Nat) (request : RuntimeGenerationRequest)
  | leaseRelease (lease : Nat)
  | next (session : Nat)
  | cancel (session : Nat) (reason : RequestTerminalReason)
  | leaveContext (session : Nat)
  | injectText (requestId text : PyStr)
  | close (reason : RequestTerminalReason)

inductive ControlReply
  | lease (lease : Nat)
  | session (session : Nat)
  | event (event : RuntimeEvent)
  | done

abbrev ControlTask (τ α : Type) : Type :=
  Coroutine (RequestController τ) (Surroundings τ) ControlCall RequestFailure α

namespace ControlledSession

variable {τ : Type}

/-- The first half of `_release_once`: whether it is for this caller to release. -/
def claimRelease (session : ControlledSession τ) : Bool × ControlledSession τ :=
  if session.released then (false, session) else (true, { session with released := true })

/-- The first half of `_cancel_runtime_once`. -/
def claimCancel (session : ControlledSession τ) : Bool × ControlledSession τ :=
  if session.cancelCalled then (false, session) else (true, { session with cancelCalled := true })

def conclude (session : ControlledSession τ) (reason : RequestTerminalReason) :
    ControlledSession τ :=
  { session with terminalReason := session.terminalReason.or (some reason) }

def beginCancel (reason : RequestTerminalReason) (session : ControlledSession τ) :
    Bool × ControlledSession τ :=
  if session.iterationTerminal || session.cancelCalled then (false, session)
  else (true, session.conclude reason)

def endIteration (reason : Option RequestTerminalReason) (session : ControlledSession τ) :
    ControlledSession τ :=
  { session with
    iterationTerminal := true
    terminalReason := session.terminalReason.or reason }

inductive DeadlineCheck
  | unlimited
  | passed
  | pending
deriving DecidableEq, Repr

def checkDeadline [LE τ] [DecidableLE τ] (now : τ) (session : ControlledSession τ) :
    DeadlineCheck × ControlledSession τ :=
  match session.deadline with
  | none => (.unlimited, session)
  | some deadline =>
      if session.cancelCalled then (.unlimited, session)
      else if deadline ≤ now then (.passed, session.conclude .timeout)
      else (.pending, session)

end ControlledSession

variable {τ : Type}

/-! ## Blocks -/

def locked {α : Type} (run : RequestController τ → Surroundings τ →
    Except RequestFailure α × RequestController τ) : ControlTask τ α :=
  Coroutine.atomically fun controller outside =>
    if outside.interrupted then (.error .cancelled, controller) else run controller outside

/-- A stretch of a session method between two awaits. -/
def sessionStep {α : Type} (session : Nat)
    (run : ControlledSession τ → Surroundings τ → Except RequestFailure α × ControlledSession τ) :
    ControlTask τ α :=
  Coroutine.atomically fun controller outside =>
    ((run (controller.session session) outside).1,
      controller.setSession session (run (controller.session session) outside).2)

def await {α : Type} (answer : Surroundings τ → Except RequestFailure α) : ControlTask τ α :=
  Coroutine.atomically fun controller outside => (answer outside, controller)

def cancelRuntime : ControlTask τ Unit :=
  await fun outside =>
    if outside.interrupted then .error .cancelled
    else if outside.cancelRaises then .error .backend
    else .ok ()

def nextRuntimeEvent : ControlTask τ RuntimeEvent :=
  await fun outside =>
    match outside.delivery with
    | .event event => .ok event
    | .stop => .error .stopAsyncIteration
    | .raised => .error .backend
    | .interrupted => .error .cancelled

/-! ## Sessions -/

def releaseAttempt (session : Nat) : ControlTask τ Unit :=
  locked fun controller _ => controller.releaseAttemptLocked session

def releaseOnce (session : Nat) : ControlTask τ Unit := do
  if ← sessionStep session fun object _ => (.ok object.claimRelease.1, object.claimRelease.2) then
    releaseAttempt session

def cancelRuntimeOnce (session : Nat) : ControlTask τ Unit := do
  if ← sessionStep session fun object _ => (.ok object.claimCancel.1, object.claimCancel.2) then
    cancelRuntime

def cancelReasons : List RequestTerminalReason :=
  [.clientCancelled, .applicationCancelled, .timeout, .serverShutdown, .modelSwitch]

def cancelSession (session : Nat) (reason : RequestTerminalReason) : ControlTask τ Unit := do
  if reason ∉ cancelReasons then
    throw (.valueError "reason is not valid for explicit request cancellation")
  else if ← sessionStep session fun object _ =>
      (.ok (object.beginCancel reason).1, (object.beginCancel reason).2) then
    cancelRuntimeOnce session
    releaseOnce session

def expireAttempt (session : Nat) : ControlTask τ RuntimeEvent := do
  cancelRuntimeOnce session
  releaseOnce session
  nextRuntimeEvent

/-- `asyncio.wait` on the next event and the deadline: whether the event came. -/
def firstCompleted (session : Nat) : ControlTask τ Bool :=
  sessionStep session fun object outside =>
    match outside.wake with
    | .event => (.ok true, object)
    | .deadline => (.ok false, object.conclude .timeout)
    | .interrupted => (.error .cancelled, object)

def nextWithDeadline [LE τ] [DecidableLE τ] (session : Nat) : ControlTask τ RuntimeEvent := do
  match ← sessionStep session fun object outside =>
      (.ok (object.checkDeadline outside.now).1, (object.checkDeadline outside.now).2) with
  | .unlimited => nextRuntimeEvent
  | .passed => expireAttempt session
  | .pending =>
      if ← firstCompleted session then nextRuntimeEvent
      else expireAttempt session

def terminalReasonOf : RuntimeEvent → Option RequestTerminalReason
  | .finished _ => some .completed
  | .failed _ => some .runtimeFailed
  | .cancelled => some .runtimeCancelled
  | _ => none

def markIteration (session : Nat) (reason : Option RequestTerminalReason) : ControlTask τ Unit :=
  sessionStep session fun object _ => (.ok (), object.endIteration reason)

def leaveIteration (session : Nat) (failure : RequestFailure) : ControlTask τ RuntimeEvent := do
  if failure = .cancelled then
    markIteration session (some .clientCancelled)
    Coroutine.ensuring (cancelRuntimeOnce session) (releaseOnce session)
  else
    markIteration session none
    releaseOnce session
  throw failure

def nextEvent [LE τ] [DecidableLE τ] (session : Nat) : ControlTask τ RuntimeEvent := do
  if ← sessionStep session fun object _ => (.ok object.iterationTerminal, object) then
    throw .stopAsyncIteration
  else
    let event ← tryCatch (nextWithDeadline session) (leaveIteration session)
    match terminalReasonOf event with
    | some reason =>
        markIteration session (some reason)
        releaseOnce session
    | none => pure ()
    return event

def leaveContext (session : Nat) : ControlTask τ Unit := do
  if ← sessionStep session fun object _ =>
      (.ok (!object.iterationTerminal && !object.cancelCalled), object) then
    cancelSession session .clientCancelled

/-! ## The controller -/

def releaseLease (lease : Nat) : ControlTask τ Unit := do
  match ← locked fun controller _ => (.ok (controller.leaseSessionLocked lease), controller) with
  | none => pure ()
  | some session =>
      match session with
      | some session => cancelSession session .applicationCancelled
      | none => pure ()
      locked fun controller _ => controller.releaseLeaseLocked lease

def validateLimits (config : RequestControlConfig τ) (request : RuntimeGenerationRequest) :
    Option RequestFailure :=
  let promptCount := request.inputIds.length
  let outputCount := request.maxNewTokens
  if ∃ limit ∈ config.maxPromptTokens, promptCount > limit then
    some (rejection .contextLength "prompt_limit_exceeded" "Prompt token limit exceeded." false
      (by decide))
  else if ∃ limit ∈ config.maxOutputTokens, outputCount > limit then
    some (rejection .invalidRequest "output_limit_exceeded"
      "Requested output token limit exceeded." false (by decide))
  else if ∃ limit ∈ config.maxTotalTokens, promptCount + outputCount > limit then
    some (rejection .contextLength "total_context_limit_exceeded"
      "Total requested context limit exceeded." false (by decide))
  else none

/-- Cancels the runtime session of a setup that failed, and raises what it failed with. -/
def rollBackSetup (started : Bool) : ControlTask τ Nat := do
  if started then
    tryCatch cancelRuntime fun failure =>
      if failure = .cancelled then throw failure else pure ()
  throw .backend

section Serving

variable [Add τ] [LE τ] [DecidableLE τ]

def acquire (config : RequestControlConfig τ) (requestId : PyStr) : ControlTask τ Nat :=
  if requestId.strip = [] then throw (.valueError "request_id must not be empty")
  else locked fun controller outside => controller.acquireLocked config requestId outside.now

def submitReserved (config : RequestControlConfig τ) (lease : Nat)
    (request : RuntimeGenerationRequest) (finalReleaseOnTerminal : Bool) : ControlTask τ Nat := do
  match validateLimits config request with
  | some failure => throw failure
  | none =>
      match ← locked fun controller outside =>
          controller.submitReservedLocked config lease request finalReleaseOnTerminal outside.now
            outside.submission with
      | .ready session => return session
      | .failed started => rollBackSetup started

/-- `RequestLease.submit` and `RequestLease.submit_final`. -/
def submitLease (config : RequestControlConfig τ) (lease : Nat)
    (request : RuntimeGenerationRequest) (finalReleaseOnTerminal : Bool) : ControlTask τ Nat := do
  let reserved ← Coroutine.atomically fun controller _ =>
    (.ok (controller.lease lease).requestId, controller)
  if request.requestId ≠ reserved then
    throw (.valueError "runtime request id must match the reserved request id")
  else submitReserved config lease request finalReleaseOnTerminal

def submit (config : RequestControlConfig τ) (request : RuntimeGenerationRequest) :
    ControlTask τ Nat := do
  let lease ← acquire config request.requestId
  tryCatch (submitReserved config lease request true) fun failure => do
    releaseLease lease
    throw failure

end Serving

def injectText (requestId text : PyStr) : ControlTask τ Unit :=
  if requestId.strip = [] then throw (.valueError "request_id must not be empty")
  else if text = [] then throw (.valueError "text must not be empty")
  else locked fun controller outside =>
    controller.injectTextLocked requestId outside.injectionAccepted

def close (reason : RequestTerminalReason) : ControlTask τ Unit := do
  if reason ∉ [.serverShutdown, .modelSwitch] then
    throw (.valueError "controller close reason must be server shutdown or model switch")
  else
    match ← locked fun controller _ =>
        (.ok (controller.closeLocked reason).1, (controller.closeLocked reason).2) with
    | none => pure ()
    | some sessions =>
        if sessions ≠ [] then
          Coroutine.forkAll (sessions.map fun session => .cancel session reason)
          -- `gather` raises what the first failed cancellation raised.
          cancelRuntime
        Coroutine.when RequestController.drained fun controller outside =>
          (if outside.interrupted then .error .cancelled else .ok (), controller)

def answer {α : Type} (reply : α → ControlReply) (control : ControlTask τ α) :
    ControlTask τ ControlReply := do
  let value ← control
  return reply value

def serve [Add τ] [LE τ] [DecidableLE τ] (config : RequestControlConfig τ) :
    ControlCall → ControlTask τ ControlReply
  | .acquire requestId => answer .lease (acquire config requestId)
  | .submit request => answer .session (submit config request)
  | .leaseSubmit lease request => answer .session (submitLease config lease request false)
  | .leaseSubmitFinal lease request => answer .session (submitLease config lease request true)
  | .leaseRelease lease => answer (fun _ => .done) (releaseLease lease)
  | .next session => answer .event (nextEvent session)
  | .cancel session reason => answer (fun _ => .done) (cancelSession session reason)
  | .leaveContext session => answer (fun _ => .done) (leaveContext session)
  | .injectText requestId text => answer (fun _ => .done) (injectText requestId text)
  | .close reason => answer (fun _ => .done) (close reason)

abbrev ControlPool (τ : Type) : Type :=
  Pool (RequestController τ) (Surroundings τ) ControlCall (Except RequestFailure ControlReply)

abbrev ControlRun [Add τ] [LE τ] [DecidableLE τ] (config : RequestControlConfig τ) :
    ControlPool τ → Prop :=
  Pool.Reachable (fun _ => serve config) RequestController.initial

end ExQServe.Control
