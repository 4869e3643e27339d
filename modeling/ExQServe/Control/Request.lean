import ExQServe.Foundation.Dict
import ExQServe.Foundation.Tasks
import ExQServe.Runtime.Contracts

/-! # Request control

The model of `control/request.py`. A section under the controller's lock is one block
of a task, and so is every stretch of a session method between two awaits. Leases and
sessions are objects, so they have numbers and live in a table. Time is only added and
compared. The idle trim of the allocator reads the controller and changes nothing, and
is left out. -/

namespace ExQServe.Control

open ExQServe.Model ExQServe.Runtime

structure RequestControlConfig (τ : Type) where
  maxInFlight : Nat
  maxPromptTokens : Option Nat
  maxOutputTokens : Option Nat
  maxTotalTokens : Option Nat
  timeoutSeconds : Option τ
  maxInFlightPositive : 0 < maxInFlight
  maxPromptTokensPositive : ∀ limit ∈ maxPromptTokens, 0 < limit
  maxOutputTokensPositive : ∀ limit ∈ maxOutputTokens, 0 < limit
  maxTotalTokensPositive : ∀ limit ∈ maxTotalTokens, 0 < limit

inductive RequestTerminalReason
  | completed
  | runtimeFailed
  | runtimeCancelled
  | clientCancelled
  | applicationCancelled
  | timeout
  | serverShutdown
  | modelSwitch
deriving DecidableEq, Repr

inductive RequestFailure
  | rejected (error : CanonicalError) (attemptStarted : Bool)
  | runtimeError (message : String)
  | valueError (message : String)
  | injectionNotFound (requestId : PyStr)
  | injectionConflict (message : String)
  | injectionTerminating (message : String)
  | stopAsyncIteration
  /-- The runtime raised. -/
  | backend
  /-- `asyncio.CancelledError` -/
  | cancelled
deriving DecidableEq

def rejection (category : ErrorCategory) (code message : String) (retryable : Bool)
    (nonBlank : NonBlank (py code)) : RequestFailure :=
  .rejected ⟨category, py code, py message, retryable, none, nonBlank⟩ false

def serverShuttingDown : RequestFailure :=
  rejection .overloaded "server_shutting_down" "Server is shutting down." true (by decide)

inductive RequestLeaseState
  | reserved
  | active
  | released
deriving DecidableEq, Repr

structure RequestLease (τ : Type) where
  requestId : PyStr
  state : RequestLeaseState
  session : Option Nat
  deadline : Option τ
  terminalReason : Option RequestTerminalReason
  terminated : Bool
  replaySafe : Bool
deriving DecidableEq

/-- `finalRelease` is what the release callback was bound to. -/
structure ControlledSession (τ : Type) where
  requestId : PyStr
  injectionAllowed : Bool
  finalRelease : Bool
  deadline : Option τ
  released : Bool
  cancelCalled : Bool
  iterationTerminal : Bool
  terminalReason : Option RequestTerminalReason
deriving DecidableEq

inductive Admission
  | acquired (lease : Nat)
  | submitted (lease session : Nat)
  | released (lease : Nat)
  | closed
deriving DecidableEq, Repr

def Admission.Admits : Admission → Prop
  | .acquired _ | .submitted _ _ => True
  | _ => False

/-- `lease` and `session` are the objects made so far; `history` is not in the code and
grows at the end. -/
structure RequestController (τ : Type) where
  inFlight : Int
  closed : Bool
  leasesByRequestId : Dict PyStr Nat
  sessions : List Nat
  sessionsByRequestId : Dict PyStr Nat
  drained : Bool
  lease : Nat → RequestLease τ
  leases : Nat
  session : Nat → ControlledSession τ
  sessionCount : Nat
  history : List Admission

variable {τ : Type}

def newLease (requestId : PyStr) (deadline : Option τ) : RequestLease τ :=
  ⟨requestId, .reserved, none, deadline, none, false, true⟩

def newSession (requestId : PyStr) (injectionAllowed finalRelease : Bool) (deadline : Option τ) :
    ControlledSession τ :=
  ⟨requestId, injectionAllowed, finalRelease, deadline, false, false, false, none⟩

namespace RequestController

def initial : RequestController τ :=
  ⟨0, false, Dict.empty, [], Dict.empty, true, fun _ => newLease [] none, 0,
    fun _ => newSession [] false false none, 0, []⟩

def setLease (controller : RequestController τ) (lease : Nat) (object : RequestLease τ) :
    RequestController τ :=
  { controller with lease := Function.update controller.lease lease object }

def setSession (controller : RequestController τ) (session : Nat) (object : ControlledSession τ) :
    RequestController τ :=
  { controller with session := Function.update controller.session session object }

def registered (controller : RequestController τ) (lease : Nat) : Bool :=
  controller.leasesByRequestId.get? (controller.lease lease).requestId = some lease

def dropSession (controller : RequestController τ) (requestId : PyStr) (session : Nat) :
    RequestController τ :=
  { controller with
    sessions := controller.sessions.filter (· ≠ session)
    sessionsByRequestId :=
      if controller.sessionsByRequestId.get? requestId = some session then
        controller.sessionsByRequestId.erase requestId
      else controller.sessionsByRequestId }

/-! ## Sections under the lock -/

def forgetSession (controller : RequestController τ) (lease : Nat) : RequestController τ :=
  match (controller.lease lease).session with
  | some session => controller.dropSession (controller.lease lease).requestId session
  | none => controller

def giveBack (controller : RequestController τ) (lease : Nat) : RequestController τ :=
  let object := controller.lease lease
  { controller.setLease lease
      { object with session := none, state := .released, terminated := true } with
    leasesByRequestId := controller.leasesByRequestId.erase object.requestId
    inFlight := controller.inFlight - 1
    history := controller.history ++ [.released lease] }

def releaseLeaseLocked (controller : RequestController τ) (lease : Nat) :
    Except RequestFailure Unit × RequestController τ :=
  if !controller.registered lease then (.ok (), controller)
  else if (controller.lease lease).state = .released then (.ok (), controller)
  else
    let next := (controller.forgetSession lease).giveBack lease
    if next.inFlight < 0 then
      (.error (.runtimeError "request-control in-flight count became negative"), next)
    else if next.inFlight = 0 then (.ok (), { next with drained := true })
    else (.ok (), next)

section Time

variable [Add τ] [LE τ] [DecidableLE τ]

def acquireLocked (config : RequestControlConfig τ) (controller : RequestController τ)
    (requestId : PyStr) (now : τ) : Except RequestFailure Nat × RequestController τ :=
  if controller.closed then (.error serverShuttingDown, controller)
  else if controller.leasesByRequestId.get? requestId ≠ none then
    (.error (rejection .invalidRequest "duplicate_request_id"
      "An active request already uses this request id." false (by decide)), controller)
  else if controller.inFlight ≥ config.maxInFlight then
    (.error (rejection .overloaded "server_overloaded" "Server is at capacity." true
      (by decide)), controller)
  else
    let lease := controller.leases
    (.ok lease,
      { controller.setLease lease (newLease requestId (config.timeoutSeconds.map (now + ·))) with
        leases := lease + 1
        leasesByRequestId := controller.leasesByRequestId.set requestId lease
        inFlight := controller.inFlight + 1
        drained := false
        history := controller.history ++ [.acquired lease] })

/-- What `runtime.submit` and making the session do. -/
inductive Submission
  | session
  | unavailable (error : CanonicalError)
  | raised
  /-- The runtime session cannot be iterated. -/
  | broken
deriving DecidableEq

/-- A session, or a setup that failed, with a runtime session or without. -/
inductive Setup
  | ready (session : Nat)
  | failed (started : Bool)
deriving DecidableEq, Repr

def submitReservedLocked (config : RequestControlConfig τ) (controller : RequestController τ)
    (lease : Nat) (request : RuntimeGenerationRequest) (finalReleaseOnTerminal : Bool) (now : τ)
    (submission : Submission) : Except RequestFailure Setup × RequestController τ :=
  let object := controller.lease lease
  if controller.closed then (.error serverShuttingDown, controller)
  else if !controller.registered lease then
    (.error (.runtimeError "request lease is no longer active"), controller)
  else if object.state = .released then
    (.error (.runtimeError "request lease is no longer active"), controller)
  else if object.session ≠ none then
    (.error (.runtimeError "request lease already has an active attempt"), controller)
  else
    let deadline := object.deadline.or (config.timeoutSeconds.map (now + ·))
    if ∃ limit ∈ deadline, limit ≤ now then
      (.error (rejection .runtimeFailure "request_timeout"
        "Inference request exceeded its serving deadline." true (by decide)),
        controller.setLease lease
          { object with
            deadline := deadline
            terminalReason := object.terminalReason.or (some .timeout)
            terminated := true })
    else
      match submission with
      | .unavailable error =>
          (.error (.rejected error true),
            controller.setLease lease { object with deadline := deadline })
      | .raised =>
          (.ok (.failed false), controller.setLease lease { object with deadline := deadline })
      | .broken =>
          (.ok (.failed true), controller.setLease lease { object with deadline := deadline })
      | .session =>
          let session := controller.sessionCount
          let injectionAllowed :=
            request.outputJsonSchema.isNone && request.generationConstraint.isNone
          (.ok (.ready session),
            { (controller.setLease lease
                  { object with
                    deadline := deadline, state := .active, session := some session }).setSession
                session
                (newSession request.requestId injectionAllowed finalReleaseOnTerminal deadline) with
              sessionCount := session + 1
              sessions := controller.sessions ++ [session]
              sessionsByRequestId := controller.sessionsByRequestId.set request.requestId session
              history := controller.history ++ [.submitted lease session] })

end Time

def releaseAttemptLocked (controller : RequestController τ) (session : Nat) :
    Except RequestFailure Unit × RequestController τ :=
  let requestId := (controller.session session).requestId
  match controller.leasesByRequestId.get? requestId with
  | none => (.ok (), controller)
  | some lease =>
      let object := controller.lease lease
      if object.session ≠ some session then (.ok (), controller)
      else
        let next := (controller.dropSession requestId session).setLease lease
          { object with session := none }
        if (controller.session session).finalRelease || controller.closed then
          next.releaseLeaseLocked lease
        else (.ok (), next)

/-- The first section of `_release_lease`: whether the lease is still registered, and its
session. -/
def leaseSessionLocked (controller : RequestController τ) (lease : Nat) :
    Option (Option Nat) :=
  if controller.registered lease then some (controller.lease lease).session else none

/-- What `runtime_session.inject_text` does, and its answer. -/
def injectTextLocked (controller : RequestController τ) (requestId : PyStr) (accepted : Bool) :
    Except RequestFailure Unit × RequestController τ :=
  match controller.sessionsByRequestId.get? requestId with
  | none => (.error (.injectionNotFound requestId), controller)
  | some session =>
      let object := controller.session session
      if !object.injectionAllowed then
        (.error (.injectionConflict
          "Text injection is unavailable while a generation constraint is active."), controller)
      else if object.iterationTerminal || object.cancelCalled || object.released || !accepted then
        (.error (.injectionTerminating "The requested generation is already terminating."),
          controller)
      else
        match controller.leasesByRequestId.get? requestId with
        | none => (.ok (), controller)
        | some lease =>
            (.ok (), controller.setLease lease { controller.lease lease with replaySafe := false })

def closing (reason : RequestTerminalReason) (object : RequestLease τ) : RequestLease τ :=
  { object with terminalReason := object.terminalReason.or (some reason), terminated := true }

/-- The section of `close`, with the sessions to cancel when there is something to wait
for. -/
def closeLocked (controller : RequestController τ) (reason : RequestTerminalReason) :
    Option (List Nat) × RequestController τ :=
  if controller.closed && controller.inFlight = 0 then (none, controller)
  else
    (some controller.sessions,
      { controller with
        closed := true
        lease := fun lease =>
          if lease ∈ controller.leasesByRequestId.entries.map Prod.snd then
            closing reason (controller.lease lease)
          else controller.lease lease
        history := controller.history ++ [.closed] })

end RequestController

end ExQServe.Control
