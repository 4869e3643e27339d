import ExQServe.Core.Events
import ExQServe.Foundation.Tasks
import ExQServe.Runtime.Contracts

/-! # Attempt recovery

The model of `serving/recovery.py`. The generator `_run` is one task, which the consumer
drives; a `cancel` is another. An attempt is the stream of events it produces. What the
lease, the runtime waiter and the attempt factory answer comes from the surroundings, and
every await and every `yield` may end with an exception. -/

namespace ExQServe.Serving

open ExQServe.Model ExQServe.Runtime

inductive ServingVisibilityMode
  | unknown
  | streaming
  | buffered
deriving DecidableEq, Repr

inductive AttemptRecoveryKind
  | none
  | regenerateModelOutput
  | waitRuntimeAndRetry
deriving DecidableEq, Repr

inductive PublicationState
  | unpublished
  | published
deriving DecidableEq, Repr

inductive RecoverySkipReason
  | disabled
  | attemptBudgetExhausted
  | visibilityUnknown
  | semanticAlreadyPublished
  | deterministicModelOutput
  | runtimeReplayUnsupported
  | runtimeReadinessUnsupported
  | runtimeNotReady
  | attachmentReplayUnsupported
  | failureNotAllowlisted
  | injectionReplayUnsupported
deriving DecidableEq, Repr

/-! ## Decisions -/

structure AttemptRecoveryEvidence where
  error : CanonicalError
  visibilityMode : ServingVisibilityMode
  publicationState : PublicationState
  attemptOrdinal : Nat
  maxExtraAttempts : Nat
  seed : Option Int
  sampling : Option RuntimeSamplingConfig
  freshAttemptReplay : Bool
  recoveryReadiness : Bool
  hasPromptAttachments : Bool
  promptAttachmentReplay : Bool
  requestReplaySafe : Bool

/-- A decision against recovery has a reason, and only such a decision. -/
structure AttemptRecoveryDecision where
  kind : AttemptRecoveryKind
  skipReason : Option RecoverySkipReason
  reasoned : skipReason.isSome = true ↔ kind = .none

def skipRecovery (reason : RecoverySkipReason) : AttemptRecoveryDecision :=
  ⟨.none, some reason, by simp⟩

def modelRerollIsDeterministic (evidence : AttemptRecoveryEvidence) : Bool :=
  evidence.seed.isSome || evidence.sampling.any fun sampling => sampling.temperature.mantissa == 0

def modelOutputAllowlisted (error : CanonicalError) : Bool :=
  (error.cause = some .outputEos &&
      (error.code = py "tool_call_incomplete" || error.code = py "protocol_ambiguity")) ||
    (error.cause = some .parserAmbiguityLimit && error.code = py "protocol_ambiguity") ||
    (error.cause = some .modelToolOutputInvalid && error.code = py "tool_call_invalid")

def classifyAttemptRecovery (evidence : AttemptRecoveryEvidence) : AttemptRecoveryDecision :=
  if evidence.maxExtraAttempts = 0 then skipRecovery .disabled
  else if evidence.attemptOrdinal > evidence.maxExtraAttempts then
    skipRecovery .attemptBudgetExhausted
  else if evidence.visibilityMode = .unknown then skipRecovery .visibilityUnknown
  else if evidence.publicationState = .published then skipRecovery .semanticAlreadyPublished
  else if evidence.hasPromptAttachments && !evidence.promptAttachmentReplay then
    skipRecovery .attachmentReplayUnsupported
  else if !evidence.requestReplaySafe then skipRecovery .injectionReplayUnsupported
  else if evidence.error.cause = some .runtimeRecovering then
    if !evidence.freshAttemptReplay then skipRecovery .runtimeReplayUnsupported
    else if !evidence.recoveryReadiness then skipRecovery .runtimeReadinessUnsupported
    else ⟨.waitRuntimeAndRetry, none, by simp⟩
  else if !evidence.freshAttemptReplay then skipRecovery .runtimeReplayUnsupported
  else if modelRerollIsDeterministic evidence then skipRecovery .deterministicModelOutput
  else if modelOutputAllowlisted evidence.error then ⟨.regenerateModelOutput, none, by simp⟩
  else skipRecovery .failureNotAllowlisted

/-! ## Events -/

def isPublicSemanticEvent : ServingEvent → Bool
  | .semantic (.toolCallStarted _ _ _ _) | .semantic (.toolCallArgumentsDelta _ _ _ _) => false
  | .semantic _ => true
  | _ => false

def isStagedToolEvent : ServingEvent → Bool
  | .semantic (.toolCallStarted _ _ _ _) | .semantic (.toolCallArgumentsDelta _ _ _ _) => true
  | _ => false

def isAttemptDiagnosticEvent : ServingEvent → Bool
  | .timingUpdated _ _ | .usageUpdated _ _ => true
  | _ => false

structure Measurements where
  usage : Option TokenUsage
  timing : Option GenerationTiming
deriving DecidableEq

def observeAttemptMeasurements (event : ServingEvent) (seen : Measurements) : Measurements :=
  match event with
  | .usageUpdated _ usage => { seen with usage := some usage }
  | .timingUpdated _ timing => { seen with timing := some timing }
  | .generationCompleted _ _ (some usage) _ => { seen with usage := some usage }
  | _ => seen

def drainStagedForPublication (staged : List ServingEvent) (toolValidated : Bool) :
    List ServingEvent :=
  staged.filter fun event => !(isStagedToolEvent event && !toolValidated)

/-- What an attempt produces: a finite list that ends in its one terminal event. -/
structure AttemptStream where
  events : List ServingEvent
  endsOnce : ∃ front last, events = front ++ [last] ∧ last.isTerminal = true ∧
    ∀ event ∈ front, event.isTerminal = false

/-! ## The session -/

inductive RecoveryAttemptStatus
  | submissionFailed
  | completed
  | failed
  | cancelled
deriving DecidableEq, Repr

structure RecoveryAttemptRecord where
  ordinal : Nat
  status : RecoveryAttemptStatus
  errorCode : Option PyStr
  failureCause : Option FailureCause
  usage : Option TokenUsage
  timing : Option GenerationTiming
  discarded : Bool
deriving DecidableEq

def attemptRecord (ordinal : Nat) (seen : Measurements) (discarded : Bool) :
    ServingEvent → Option RecoveryAttemptRecord
  | .generationCompleted _ _ usage _ =>
      some ⟨ordinal, .completed, none, none, usage.or seen.usage, seen.timing, discarded⟩
  | .generationFailed _ error =>
      some ⟨ordinal, .failed, some error.code, error.cause, seen.usage, seen.timing, discarded⟩
  | .generationCancelled _ =>
      some ⟨ordinal, .cancelled, none, none, seen.usage, seen.timing, discarded⟩
  | _ => none

structure RecoveryConfig where
  visibilityMode : ServingVisibilityMode
  maxExtraAttempts : Nat
  seed : Option Int
  sampling : Option RuntimeSamplingConfig
  capabilities : Option RuntimeCapabilities
  hasPromptAttachments : Bool
  initialAttemptOrdinal : Nat
  initialAttemptsStarted : Nat
  initialRecoveryAttempts : Nat
  initialAttemptRecords : List RecoveryAttemptRecord
  maxExtraAttemptsKnown : maxExtraAttempts = 0 ∨ maxExtraAttempts = 1
  ordinalPositive : 1 ≤ initialAttemptOrdinal
  startedPositive : 1 ≤ initialAttemptsStarted
  recoveryWithin : initialRecoveryAttempts ≤ maxExtraAttempts

/-- A published event, with the attempt that produced it, or none when the session made
it. -/
structure Publication where
  attempt : Option Nat
  event : ServingEvent

inductive RecoveryEnding
  | returned
  | raised
  | outOfFuel
deriving DecidableEq, Repr

inductive RecoveryFailure
  | raised
  | outOfFuel
deriving DecidableEq, Repr

/-- The attributes that only the generator writes. Not in the code are `streams`, the
attempts that were started with the current one last, the log of the publications, the
number of the task that drives the generator, and how it ended. -/
structure RecoveryProgress where
  attemptOrdinal : Nat
  attemptsStarted : Nat
  recoveryAttempts : Nat
  attemptRecords : List RecoveryAttemptRecord
  recovered : Bool
  finalSkipReason : Option RecoverySkipReason
  lastRecoveryKind : AttemptRecoveryKind
  recoveryDecision : String
  runtimeState : String
  terminal : Bool
  published : Bool
  externalStarted : Bool
  streams : List AttemptStream
  publications : List Publication
  runner : Option Nat
  ended : Option RecoveryEnding

/-- `releases` counts the calls of `lease.release()`. -/
structure RecoveringServingSession where
  progress : RecoveryProgress
  cancelled : Bool
  released : Bool
  releases : Nat

inductive Submission
  | session (stream : AttemptStream)
  | rejected (error : CanonicalError) (attemptStarted : Bool)
  | raised

structure RecoverySurroundings where
  raises : Bool
  leaseActive : Bool
  leaseReplaySafe : Bool
  attemptMeasurements : Measurements
  readiness : RuntimeReadinessResult
  submission : Submission

inductive RecoveryCall
  | run
  | cancel
  | leaveContext
deriving DecidableEq, Repr

abbrev RecoveryTask (α : Type) : Type :=
  Coroutine RecoveringServingSession RecoverySurroundings RecoveryCall RecoveryFailure α

namespace RecoveryProgress

def initial (config : RecoveryConfig) (first : AttemptStream) : RecoveryProgress where
  attemptOrdinal := config.initialAttemptOrdinal
  attemptsStarted := config.initialAttemptsStarted
  recoveryAttempts := config.initialRecoveryAttempts
  attemptRecords := config.initialAttemptRecords
  recovered := false
  finalSkipReason := none
  lastRecoveryKind := if 0 < config.initialRecoveryAttempts then .waitRuntimeAndRetry else .none
  recoveryDecision := if 0 < config.initialRecoveryAttempts then "retried" else "not_evaluated"
  runtimeState := "ready"
  terminal := false
  published := false
  externalStarted := false
  streams := [first]
  publications := []
  runner := none
  ended := none

def evidence (config : RecoveryConfig) (progress : RecoveryProgress) (replaySafe : Bool)
    (error : CanonicalError) : AttemptRecoveryEvidence where
  error := error
  visibilityMode := config.visibilityMode
  publicationState := if progress.published then .published else .unpublished
  attemptOrdinal := progress.attemptOrdinal
  maxExtraAttempts := config.maxExtraAttempts
  seed := config.seed
  sampling := config.sampling
  freshAttemptReplay := config.capabilities.any RuntimeCapabilities.freshAttemptReplay
  recoveryReadiness := config.capabilities.any RuntimeCapabilities.recoveryReadiness
  hasPromptAttachments := config.hasPromptAttachments
  promptAttachmentReplay := config.capabilities.any RuntimeCapabilities.promptAttachmentReplay
  requestReplaySafe := replaySafe

def recordTerminalAttempt (progress : RecoveryProgress) (terminal : ServingEvent)
    (seen outside : Measurements) (discarded : Bool) : RecoveryProgress :=
  let measured : Measurements := ⟨seen.usage.or outside.usage, seen.timing.or outside.timing⟩
  match attemptRecord progress.attemptOrdinal measured discarded terminal with
  | some record => { progress with attemptRecords := progress.attemptRecords ++ [record] }
  | none => progress

def publish (progress : RecoveryProgress) (attempt : Option Nat) (event : ServingEvent) :
    RecoveryProgress :=
  { progress with publications := progress.publications ++ [⟨attempt, event⟩] }

def noteCompletion (progress : RecoveryProgress) : ServingEvent → RecoveryProgress
  | .generationCompleted _ _ _ _ =>
      { progress with recovered := progress.recovered || decide (0 < progress.recoveryAttempts) }
  | _ => progress

end RecoveryProgress

def RecoveringServingSession.initial (config : RecoveryConfig) (first : AttemptStream) :
    RecoveringServingSession := ⟨.initial config first, false, false, 0⟩

/-! ## Blocks -/

def advance {α : Type} (run : RecoveryProgress → Bool → RecoverySurroundings →
    Except RecoveryFailure α × RecoveryProgress) : RecoveryTask α :=
  Coroutine.atomically fun session outside =>
    ((run session.progress session.cancelled outside).1,
      { session with progress := (run session.progress session.cancelled outside).2 })

def change (update : RecoveryProgress → RecoverySurroundings → RecoveryProgress) :
    RecoveryTask Unit :=
  advance fun progress _ outside => (.ok (), update progress outside)

def pause : RecoveryTask Unit :=
  advance fun progress _ outside => (if outside.raises then .error .raised else .ok (), progress)

def publishEvent (attempt : Option Nat) (event : ServingEvent) : RecoveryTask Unit :=
  advance fun progress _ outside =>
    (if outside.raises then .error .raised else .ok (), progress.publish attempt event)

def publishAll (attempt : Nat) : List ServingEvent → RecoveryTask Unit
  | [] => pure ()
  | event :: events => do
      publishEvent (some attempt) event
      publishAll attempt events

def markTerminal : RecoveryTask Unit := change fun progress _ => { progress with terminal := true }

/-! ## Retries -/

theorem requestTimeout_code : NonBlank (py "request_timeout") := by decide

def requestTimeout : CanonicalError :=
  ⟨.runtimeFailure, py "request_timeout",
    py "Inference request exceeded its serving deadline.", true, none,
    requestTimeout_code⟩

def runtimeRecoveryUnavailable : CanonicalError :=
  ⟨.runtimeFailure, py "runtime_recovery_unavailable",
    py "Inference runtime did not become ready before request recovery ended.", false,
    some .restartRequired, by decide⟩

/-- After the wait for the runtime: the failure to publish, unless it is ready. -/
def settleReadiness (requestId : PyStr) (readiness : RuntimeReadinessResult)
    (progress : RecoveryProgress) (stopped : Bool) : Option ServingEvent × RecoveryProgress :=
  let notReady := { progress with finalSkipReason := some .runtimeNotReady }
  if stopped then (some (.generationCancelled requestId), notReady)
  else
    let told := { progress with runtimeState := readiness.value }
    let refused := { notReady with runtimeState := readiness.value }
    match readiness with
    | .closed =>
        (some (.generationCancelled requestId),
          { refused with recoveryDecision := "runtime_closed" })
    | .deadline =>
        (some (.generationFailed requestId requestTimeout),
          { refused with recoveryDecision := "deadline" })
    | .failed =>
        (some (.generationFailed requestId runtimeRecoveryUnavailable),
          { refused with recoveryDecision := "runtime_not_ready" })
    | .ready => (none, told)

inductive Submitted
  | failure (event : ServingEvent)
  | cancelled
  | running

def settleSubmission (requestId : PyStr) (progress : RecoveryProgress) (stopped : Bool) :
    Submission → Except RecoveryFailure Submitted × RecoveryProgress
  | .raised => (.error .raised, progress)
  | .rejected error attemptStarted =>
      if stopped then
        (.ok (.failure (.generationCancelled requestId)),
          { progress with recoveryDecision := "cancelled" })
      else if attemptStarted then
        (.ok (.failure (.generationFailed requestId error)),
          { progress with
            recoveryDecision := "retry_submission_failed"
            recoveryAttempts := progress.recoveryAttempts + 1
            attemptOrdinal := progress.attemptOrdinal + 1
            attemptsStarted := progress.attemptsStarted + 1
            attemptRecords := progress.attemptRecords ++
              [⟨progress.attemptOrdinal + 1, .submissionFailed, some error.code, error.cause, none,
                none, false⟩] })
      else
        (.ok (.failure (.generationFailed requestId error)),
          { progress with recoveryDecision := "retry_blocked_before_submit" })
  | .session stream =>
      (.ok (if stopped then .cancelled else .running),
        { progress with
          recoveryDecision := "retried"
          recoveryAttempts := progress.recoveryAttempts + 1
          attemptOrdinal := progress.attemptOrdinal + 1
          attemptsStarted := progress.attemptsStarted + 1
          streams := progress.streams ++ [stream] })

def submitRetry (requestId : PyStr) : RecoveryTask (Option ServingEvent) := do
  let stopped ← advance fun progress cancelled outside =>
    if cancelled || !outside.leaseActive then
      (.ok true, { progress with finalSkipReason := some .runtimeNotReady })
    else (.ok false, progress)
  if stopped then return some (.generationCancelled requestId)
  else
    match ← advance fun progress cancelled outside =>
        settleSubmission requestId progress (cancelled || !outside.leaseActive)
          outside.submission with
    | .failure event => return some event
    | .cancelled =>
        -- `await self._current_attempt.cancel()`
        pause
        return some (.generationCancelled requestId)
    | .running => return none

def startRetryOrFailure (decision : AttemptRecoveryDecision) (requestId : PyStr) :
    RecoveryTask (Option ServingEvent) := do
  if decision.kind = .none then
    change fun progress _ =>
      { progress with
        lastRecoveryKind :=
          if progress.recoveryAttempts = 0 then .none else progress.lastRecoveryKind
        recoveryDecision := "skipped"
        finalSkipReason := decision.skipReason }
    return none
  else
    change fun progress _ =>
      { progress with lastRecoveryKind := decision.kind, recoveryDecision := "retry_planned" }
    if decision.kind = .waitRuntimeAndRetry then
      pause
      match ← advance fun progress cancelled outside =>
          let settled := settleReadiness requestId outside.readiness progress
            (cancelled || !outside.leaseActive)
          (.ok settled.1, settled.2) with
      | some failure => return some failure
      | none => submitRetry requestId
    else submitRetry requestId

/-- The decision about a failed attempt, which is put on record. -/
def judgeFailure (config : RecoveryConfig) (terminal : ServingEvent) (error : CanonicalError)
    (seen : Measurements) : RecoveryTask AttemptRecoveryDecision :=
  advance fun progress _ outside =>
    let decision := classifyAttemptRecovery (progress.evidence config outside.leaseReplaySafe error)
    (.ok decision, progress.recordTerminalAttempt terminal seen outside.attemptMeasurements
      (decision.kind ≠ .none))

def recordTerminal (terminal : ServingEvent) (seen : Measurements) : RecoveryTask Unit :=
  change fun progress outside =>
    progress.recordTerminalAttempt terminal seen outside.attemptMeasurements false

def publishOutcome (attempt : Nat) (terminal : ServingEvent) :
    Option ServingEvent → RecoveryTask Unit
  | some failure => publishEvent none failure
  | none => publishEvent (some attempt) terminal

/-! ## The generator -/

def recoveryUnavailable (config : RecoveryConfig) : Bool :=
  config.maxExtraAttempts == 0 || config.visibilityMode == .unknown ||
    match config.capabilities with
    | none => true
    | some capabilities =>
        !capabilities.freshAttemptReplay ||
          (config.hasPromptAttachments && !capabilities.promptAttachmentReplay)

def noteUnavailable (config : RecoveryConfig) (event : ServingEvent) (seen : Measurements)
    (progress : RecoveryProgress) (outside : RecoverySurroundings) : RecoveryProgress :=
  let noted :=
    match event with
    | .generationFailed _ error =>
        if 0 < config.maxExtraAttempts then
          { progress with
            finalSkipReason := (classifyAttemptRecovery
              (progress.evidence config outside.leaseReplaySafe error)).skipReason }
        else progress
    | _ => progress.noteCompletion event
  if event.isTerminal then
    noted.recordTerminalAttempt event seen outside.attemptMeasurements false
  else noted

def passThrough (config : RecoveryConfig) (attempt : Nat) :
    List ServingEvent → Measurements → RecoveryTask Unit
  | [], _ => markTerminal
  | event :: events, seen => do
      pause
      let seen := observeAttemptMeasurements event seen
      change (noteUnavailable config event seen)
      publishEvent (some attempt) event
      passThrough config attempt events seen

def currentAttempt : RecoveryTask (Nat × List ServingEvent) :=
  advance fun progress _ _ =>
    (.ok (progress.streams.length - 1,
      (progress.streams.getLast?.map AttemptStream.events).getD []), progress)

def bufferedAttempts (config : RecoveryConfig) : Nat → RecoveryTask Unit
  | 0 => throw .outOfFuel
  | fuel + 1 => do
      let (attempt, events) ← currentAttempt
      pause
      let seen := events.foldl (fun seen event => observeAttemptMeasurements event seen)
        ⟨none, none⟩
      match events.getLast? with
      | some (.generationFailed requestId error) =>
          let terminal := .generationFailed requestId error
          let decision ← judgeFailure config terminal error seen
          let failure ← startRetryOrFailure decision requestId
          if decision.kind ≠ .none ∧ failure = none then bufferedAttempts config fuel
          else
            publishOutcome attempt terminal failure
            markTerminal
      | some (.generationCancelled requestId) =>
          recordTerminal (.generationCancelled requestId) seen
          publishEvent (some attempt) (.generationCancelled requestId)
          markTerminal
      | some (.generationCompleted requestId reason usage stopSequence) =>
          let terminal := .generationCompleted requestId reason usage stopSequence
          recordTerminal terminal seen
          change fun progress _ => progress.noteCompletion terminal
          publishAll attempt events
          markTerminal
      | _ =>
          publishAll attempt events
          markTerminal

/-- `_external_started` becomes true; whether it was not. -/
def claimStart : RecoveryTask Bool :=
  advance fun progress _ _ => (.ok !progress.externalStarted,
    { progress with externalStarted := true })

/-- A failed attempt of a stream: whether another one is running. -/
def settleFailed (config : RecoveryConfig) (attempt : Nat) (requestId : PyStr)
    (error : CanonicalError) (staged : List ServingEvent) (seen : Measurements) :
    RecoveryTask Bool := do
  let terminal := .generationFailed requestId error
  let decision ← judgeFailure config terminal error seen
  let failure ← startRetryOrFailure decision requestId
  if decision.kind ≠ .none ∧ failure = none then return true
  else
    publishAll attempt (drainStagedForPublication staged false)
    publishOutcome attempt terminal failure
    markTerminal
    return false

def settleEnded (attempt : Nat) (terminal : ServingEvent) (staged : List ServingEvent)
    (seen : Measurements) : RecoveryTask Bool := do
  recordTerminal terminal seen
  publishAll attempt (drainStagedForPublication staged false)
  change fun progress _ => progress.noteCompletion terminal
  publishEvent (some attempt) terminal
  markTerminal
  return false

/-- The loop over the events of one attempt: whether another one is running. -/
def streamAttempt (config : RecoveryConfig) (attempt : Nat) :
    List ServingEvent → List ServingEvent → Measurements → RecoveryTask Bool
  | [], _, _ => do
      markTerminal
      return false
  | event :: events, staged, seen => do
      pause
      let seen := observeAttemptMeasurements event seen
      if event.isStarted then
        if ← claimStart then
          publishEvent (some attempt) event
        streamAttempt config attempt events staged seen
      else
        let published ← advance fun progress _ _ => (.ok progress.published, progress)
        if (isStagedToolEvent event || isAttemptDiagnosticEvent event) && !published then
          streamAttempt config attempt events (staged ++ [event]) seen
        else if isPublicSemanticEvent event then
          publishAll attempt (drainStagedForPublication staged event.isToolCallCompleted)
          change fun progress _ => { progress with published := true }
          publishEvent (some attempt) event
          streamAttempt config attempt events [] seen
        else
          match event with
          | .generationFailed requestId error =>
              settleFailed config attempt requestId error staged seen
          | .generationCompleted _ _ _ _ | .generationCancelled _ =>
              settleEnded attempt event staged seen
          | _ =>
              publishEvent (some attempt) event
              streamAttempt config attempt events staged seen

def streamingAttempts (config : RecoveryConfig) : Nat → RecoveryTask Unit
  | 0 => throw .outOfFuel
  | fuel + 1 => do
      let (attempt, events) ← currentAttempt
      if ← streamAttempt config attempt events [] ⟨none, none⟩ then streamingAttempts config fuel

/-- The body of `_run`. No attempt is followed by more than the extra ones. -/
def runAttempts (config : RecoveryConfig) : RecoveryTask Unit := do
  if recoveryUnavailable config then
    let (attempt, events) ← currentAttempt
    passThrough config attempt events ⟨none, none⟩
  else if config.visibilityMode = .buffered then
    bufferedAttempts config (config.maxExtraAttempts + 1)
  else streamingAttempts config (config.maxExtraAttempts + 1)

/-! ## Release and cancellation -/

namespace RecoveringServingSession

def releaseOnce (session : RecoveringServingSession) : RecoveringServingSession :=
  if session.released then session
  else { session with released := true, releases := session.releases + 1 }

end RecoveringServingSession

def releaseLeaseOnce : RecoveryTask Unit :=
  Coroutine.atomically fun session outside =>
    (if outside.raises then .error .raised else .ok (), session.releaseOnce)

def endingOf : Except RecoveryFailure Unit → RecoveryEnding
  | .ok () => .returned
  | .error .raised => .raised
  | .error .outOfFuel => .outOfFuel

def conclude (result : Except RecoveryFailure Unit) : RecoveryTask Unit :=
  Coroutine.atomically fun session outside =>
    (if outside.raises then .error .raised else result,
      let released := session.releaseOnce
      { released with progress := { released.progress with ended := some (endingOf result) } })

/-- The generator is driven by one task; another one that tries is refused. -/
def runSession (config : RecoveryConfig) (thread : Nat) : RecoveryTask Unit := do
  let mine ← advance fun progress _ _ =>
    match progress.runner with
    | some _ => (.ok false, progress)
    | none => (.ok true, { progress with runner := some thread })
  if mine then Task.andThen (runAttempts config) conclude
  else throw .raised

def cancelRecovery : RecoveryTask Unit := do
  let mine ← Coroutine.atomically fun session _ =>
    if session.progress.terminal || session.cancelled then (.ok false, session)
    else (.ok true, { session with cancelled := true })
  if mine then
    Coroutine.ensuring
      (Coroutine.atomically fun session outside =>
        (if outside.raises then .error .raised else .ok (), session))
      releaseLeaseOnce

def leaveRecovery : RecoveryTask Unit := do
  let running ← Coroutine.atomically fun session _ => (.ok !session.progress.terminal, session)
  if running then cancelRecovery

def serveRecovery (config : RecoveryConfig) (thread : Nat) : RecoveryCall → RecoveryTask Unit
  | .run => runSession config thread
  | .cancel => cancelRecovery
  | .leaveContext => leaveRecovery

abbrev RecoveryPool : Type :=
  Pool RecoveringServingSession RecoverySurroundings RecoveryCall (Except RecoveryFailure Unit)

abbrev RecoveryRun (config : RecoveryConfig) (first : AttemptStream) : RecoveryPool → Prop :=
  Pool.Reachable (serveRecovery config) (.initial config first)

end ExQServe.Serving
