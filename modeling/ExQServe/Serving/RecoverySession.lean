import ExQServe.Serving.RecoveryRuns

/-! # Runs of a recovering session

The generator keeps the rules of the session from its first block to its last, and the
other tasks leave its progress alone. -/

namespace ExQServe.Serving

open ExQServe.Model ExQServe.Runtime

/-- What a session has published, and what it has spent for it. The semantic events are of
one attempt, and the attempt that ends the log is the last one. -/
structure OneAttempt (config : RecoveryConfig) (first : AttemptStream)
    (session : RecoveringServingSession) : Prop where
  coherent : Coherent first session.progress.streams session.progress.publications
  semantic : ∃ kept, ∀ publication ∈ session.progress.publications, ∀ event,
    publication.event = .semantic event → publication.attempt = some kept
  ordered : Ordered session.progress.publications
  finished : session.progress.ended = some .returned →
    Finished session.progress.streams session.progress.publications
  ends : session.progress.ended ≠ some .outOfFuel
  attempts : session.progress.streams.length ≤ 1 + config.maxExtraAttempts
  started : session.progress.attemptsStarted ≤
    config.initialAttemptsStarted + config.maxExtraAttempts
  unseen : 2 ≤ session.progress.attemptOrdinal → ∀ publication ∈ session.progress.publications,
    publication.attempt = some 0 → ∀ event, publication.event ≠ .semantic event
  released : session.releases ≤ 1 ∧ (session.progress.ended ≠ none → session.releases = 1)

/-! ## The generator -/

section Generator

variable {config : RecoveryConfig} {first : AttemptStream} {thread : Nat}

/-- Before anything has happened the log is empty. -/
theorem initial_sound (config : RecoveryConfig) (first : AttemptStream) :
    LogSound first config.initialAttemptOrdinal [first] [] := by
  constructor
  · rfl
  · refine ⟨0, first, [], [], [], rfl, rfl, .none first 0, ?_, .inl rfl⟩
    exact .none 0 first.events first.events
  · exact fun _ inside => absurd inside List.not_mem_nil
  · exact fun _ _ inside => absurd inside List.not_mem_nil

theorem initial_budget (isFirst : config.initialAttemptOrdinal = 1) :
    Budget config (.initial config first) := by
  constructor
  · rw [RecoveryProgress.initial, isFirst]
    exact Nat.le_add_right 1 _
  · exact config.ordinalPositive
  · rfl

def RecoveryProgress.begun (config : RecoveryConfig) (first : AttemptStream) (thread : Nat) :
    RecoveryProgress := { RecoveryProgress.initial config first with runner := some thread }

theorem begun_driving (isFirst : config.initialAttemptOrdinal = 1) :
    Driving config first thread (.begun config first thread) := by
  constructor
  · exact (initial_budget isFirst).same rfl rfl rfl
  · exact initial_sound config first
  · rfl
  · rfl

theorem drives_runAttempts (isFirst : config.initialAttemptOrdinal = 1) :
    Drives config first thread (fun _ next => Finished next.streams next.publications)
      (runAttempts config)
      (.begun config first thread) := by
  have driving : Driving config first thread (.begun config first thread) := begun_driving isFirst
  have enough : config.maxExtraAttempts + 2 ≤ config.maxExtraAttempts + 1 +
      config.initialAttemptOrdinal := by
    rw [isFirst]
  rw [runAttempts]
  by_cases unavailable : recoveryUnavailable config = true
  · rw [if_pos unavailable]
    apply drives_bind _ (drives_currentAttempt driving isFirst)
    rintro ⟨attempt, _⟩ _ driving ⟨rfl, stream, rfl, current⟩
    have number : attempt = 0 := by
      have one := current.number
      exact (Nat.succ.inj one).symm
    subst number
    have nothing : (RecoveryProgress.begun config first thread).publications =
      publicationsOf 0 [] :=
      rfl
    exact drives_passThrough driving current rfl nothing
  rw [if_neg unavailable]
  by_cases buffered : config.visibilityMode = .buffered
  · rw [if_pos buffered]
    exact drives_bufferedAttempts driving isFirst enough rfl
  rw [if_neg buffered]
  apply drives_streamingAttempts driving enough
  constructor
  · rfl
  · exact isFirst
  · exact .none first 0
  · rfl
  · exact fun _ inside => absurd inside List.not_mem_nil
  · exact fun some => absurd rfl some

/-! ## Release -/

theorem releaseOnce_progress (session : RecoveringServingSession) :
    session.releaseOnce.progress = session.progress := by
  rw [RecoveringServingSession.releaseOnce]
  cases session.released with
  | true => rfl
  | false => rfl

theorem releaseOnce_released (session : RecoveringServingSession) :
    session.releaseOnce.released = true := by
  rw [RecoveringServingSession.releaseOnce]
  cases released : session.released with
  | true => exact released
  | false => rfl

theorem releaseOnce_releases {session : RecoveringServingSession}
    (counted : session.releases = if session.released then 1 else 0) :
    session.releaseOnce.releases = 1 := by
  rw [RecoveringServingSession.releaseOnce]
  cases released : session.released with
  | true =>
      rw [released] at counted
      exact counted
  | false =>
      rw [released] at counted
      exact congrArg Nat.succ counted

/-- The lease is given back at most once, whatever else is known of the session. -/
theorem SessionSound.release {session : RecoveringServingSession}
    (sound : SessionSound config first session) :
      SessionSound config first session.releaseOnce := by
  have same := releaseOnce_progress session
  constructor
  · rw [same]
    exact sound.fresh
  · rw [same]
    exact sound.budget
  · rw [same]
    exact sound.log
  · rw [same]
    exact sound.returned
  · rw [same]
    exact sound.fuel
  · rw [releaseOnce_releases sound.releases, releaseOnce_released]
    rfl
  · exact fun _ => releaseOnce_released session

/-- The generator ends: what it returned with decides what is known of the log. -/
theorem SessionSound.conclude {session : RecoveringServingSession}
    (sound : SessionSound config first session)
    (driving : Driving config first thread session.progress) {result : Except RecoveryFailure Unit}
    (ends : Ends (fun _ next => Finished next.streams next.publications) session.progress result) :
    SessionSound config first { session.releaseOnce with
      progress := { session.releaseOnce.progress with ended := some (endingOf result) } } := by
  rw [releaseOnce_progress]
  constructor
  · intro idle
    rw [driving.runner] at idle
    cases idle
  · exact sound.budget.same rfl rfl rfl
  · exact sound.log
  · intro returned
    cases result with
    | ok value => exact ends
    | error failure =>
        cases failure with
        | raised => cases returned
        | outOfFuel => cases returned
  · intro exhausted
    cases result with
    | ok value => cases exhausted
    | error failure =>
        cases ends
        cases exhausted
  · rw [releaseOnce_releases sound.releases]
    rw [releaseOnce_released]
    rfl
  · exact fun _ => releaseOnce_released session

theorem safe_conclude {result : Except RecoveryFailure Unit} {seen : RecoveringServingSession}
    (driving : Driving config first thread seen.progress)
    (ends : Ends (fun _ next => Finished next.streams next.publications) seen.progress result) :
    Task.Safe (recoveryRules config first) thread (fun _ _ => True) (conclude result) seen := by
  apply Task.safe_atomically
  intro session outside others sound
  have same : session.progress = seen.progress := others driving.runner
  rw [← same] at driving ends
  refine ⟨SessionSound.conclude sound driving ends, ?_, trivial⟩
  intro other different drives
  rw [driving.runner] at drives
  exact absurd (Option.some.inj drives).symm different

theorem safe_runSession (isFirst : config.initialAttemptOrdinal = 1)
    (seen : RecoveringServingSession) :
    Task.Safe (recoveryRules config first) thread (fun _ _ => True) (runSession config thread)
      seen := by
  rw [runSession]
  apply Coroutine.safe_bind
  apply Task.safe_atomically
  intro session outside _ sound
  dsimp only
  cases runner : session.progress.runner with
  | some other => exact ⟨sound, fun _ _ _ => rfl, trivial⟩
  | none =>
      have fresh : session.progress = .initial config first := sound.fresh runner
      have driving : Driving config first thread (.begun config first thread) :=
        begun_driving isFirst
      rw [fresh]
      refine ⟨⟨?_, driving.budget, driving.log, ?_, ?_, sound.releases, ?_⟩, ?_, ?_⟩
      · intro idle
        cases idle
      · intro returned
        cases returned
      · intro exhausted
        cases exhausted
      · intro ended
        exact absurd rfl ended
      · intro other _ drives
        rw [runner] at drives
        cases drives
      · apply Task.Safe.andThen
        apply Task.Safe.weaken ?_ (drives_runAttempts isFirst _ rfl)
        rintro result last ⟨driving, ends⟩
        exact safe_conclude driving ends

/-! ## The other tasks -/

/-- A block of another task. -/
theorem keeps_aside {α : Type} {run : RecoveringServingSession → RecoverySurroundings →
    Except RecoveryFailure α × RecoveringServingSession}
    (progress : ∀ session outside, (run session outside).2.progress = session.progress)
    (keeps : ∀ session outside, SessionSound config first session →
      SessionSound config first (run session outside).2) :
    Task.Keeps (recoveryRules config first) (Coroutine.atomically run : RecoveryTask α) := by
  apply Coroutine.keeps_atomically
  intro session outside sound
  exact ⟨keeps session outside sound, fun _ _ => progress session outside⟩

theorem keeps_cancelRecovery : Task.Keeps (recoveryRules config first) cancelRecovery := by
  rw [cancelRecovery]
  apply Coroutine.keeps_bind
  · apply keeps_aside
    · intro session outside
      cases stopped : session.progress.terminal || session.cancelled with
      | true => rfl
      | false => rfl
    · intro session outside sound
      cases stopped : session.progress.terminal || session.cancelled with
      | true => exact sound
      | false =>
          exact ⟨sound.fresh, sound.budget, sound.log, sound.returned, sound.fuel, sound.releases,
            sound.concluded⟩
  · intro mine
    cases mine with
    | false => exact Coroutine.keeps_pure ()
    | true =>
        apply Coroutine.keeps_ensuring
        · exact keeps_aside (fun _ _ => rfl) fun _ _ sound => sound
        · exact keeps_aside (fun session _ => releaseOnce_progress session) fun _ _ sound =>
            sound.release

theorem keeps_leaveRecovery : Task.Keeps (recoveryRules config first) leaveRecovery := by
  rw [leaveRecovery]
  apply Coroutine.keeps_bind
  · exact keeps_aside (fun _ _ => rfl) fun _ _ sound => sound
  · intro running
    cases running with
    | true => exact keeps_cancelRecovery
    | false => exact Coroutine.keeps_pure ()

/-! ## Runs -/

theorem recoveryRun_sound (isFirst : config.initialAttemptOrdinal = 1) {pool : RecoveryPool}
    (run : RecoveryRun config first pool) : SessionSound config first pool.shared := by
  have sound : pool.Sound (recoveryRules config first) := by
    apply run.sound
    · constructor
      · exact fun _ => rfl
      · exact initial_budget isFirst
      · exact initial_sound config first
      · intro returned
        cases returned
      · intro exhausted
        cases exhausted
      · rfl
      · exact fun ended => absurd rfl ended
    · intro thread call session _
      cases call with
      | run => exact safe_runSession isFirst session
      | cancel => exact keeps_cancelRecovery thread session
      | leaveContext => exact keeps_leaveRecovery thread session
  exact sound.invariant

end Generator

/-- Only the attempt that is kept shows. -/
theorem Coherent.semantic {first : AttemptStream} {streams : List AttemptStream}
    {log : List Publication} (coherent : Coherent first streams log) :
    ∃ kept, ∀ publication ∈ log, ∀ event, publication.event = .semantic event →
      publication.attempt = some kept := by
  rcases coherent with ⟨kept, stream, starts, own, made, _, rfl, givenUp, events, isMade⟩
  refine ⟨kept, ?_⟩
  intro publication inside event isSemantic
  simp only [List.mem_append] at inside
  rcases inside with (start | mine) | last
  · have isStart := (givenUp.firstStart publication start).2.2.1
    exact absurd isSemantic (not_semantic_of_started isStart event)
  · exact events.attempts publication mine
  · rcases isMade with rfl | ⟨terminal, rfl, isTerminal⟩
    · cases last
    · cases List.mem_singleton.mp last
      rw [show terminal = .semantic event from isSemantic] at isTerminal
      cases isTerminal

/-- In every state of every interleaving one coherent attempt is published. -/
theorem recovery_publishes_one_attempt {config : RecoveryConfig} {first : AttemptStream}
    (isFirst : config.initialAttemptOrdinal = 1) {pool : RecoveryPool}
    (run : RecoveryRun config first pool) : OneAttempt config first pool.shared := by
  have sound := recoveryRun_sound isFirst run
  rcases sound.budget with ⟨ordinal, streams, started⟩
  rw [isFirst] at started
  constructor
  · exact sound.log.coherent
  · exact sound.log.coherent.semantic
  · exact sound.log.ordered
  · exact sound.returned
  · exact sound.fuel
  · exact Nat.le_trans streams ordinal
  · omega
  · exact sound.log.unseen
  · rw [sound.releases]
    constructor
    · cases pool.shared.released with
      | true => exact Nat.le_refl 1
      | false => exact Nat.zero_le 1
    · intro ended
      rw [sound.concluded ended]
      rfl

/-! A streamed attempt ends within a tool call and is given up; the next one is kept. -/

def quietSurroundings (submission : Submission) : RecoverySurroundings :=
  ⟨false, true, true, ⟨none, none⟩, .ready, submission⟩

def replayable (visibilityMode : ServingVisibilityMode) : RecoveryConfig where
  visibilityMode := visibilityMode
  maxExtraAttempts := 1
  seed := none
  sampling := none
  capabilities := some ⟨true, true, true⟩
  hasPromptAttachments := false
  initialAttemptOrdinal := 1
  initialAttemptsStarted := 1
  initialRecoveryAttempts := 0
  initialAttemptRecords := []
  maxExtraAttemptsKnown := .inr rfl
  ordinalPositive := by decide
  startedPositive := by decide
  recoveryWithin := by decide

def incompleteToolCall : CanonicalError :=
  ⟨.modelFailure, py "tool_call_incomplete", [], true, some .outputEos, by decide⟩

def givenUpAttempt : AttemptStream where
  events := [.generationStarted [], .semantic (.toolCallStarted [] [] [] 0),
    .generationFailed [] incompleteToolCall]
  endsOnce := ⟨[.generationStarted [], .semantic (.toolCallStarted [] [] [] 0)], _, rfl, rfl,
    by decide⟩

def keptAttempt : AttemptStream where
  events := [.generationStarted [], .semantic (.textDelta [] []),
    .generationCompleted [] .stop none none]
  endsOnce := ⟨[.generationStarted [], .semantic (.textDelta [] [])], _, rfl, rfl, by decide⟩

def recoveredRun : List (Action RecoverySurroundings RecoveryCall) :=
  .call .run :: List.replicate 27 (.run 0 (quietSurroundings (.session keptAttempt)))

theorem recovery_publishes_one_attempt_retried : ∃ pool : RecoveryPool,
    RecoveryRun (replayable .streaming) givenUpAttempt pool ∧
    pool.shared.progress.publications = [⟨some 0, .generationStarted []⟩,
      ⟨some 1, .semantic (.textDelta [] [])⟩, ⟨some 1, .generationCompleted [] .stop none none⟩] ∧
    OneAttempt (replayable .streaming) givenUpAttempt pool.shared := by
  have performs : (Pool.perform (serveRecovery (replayable .streaming))
      ⟨.initial (replayable .streaming) givenUpAttempt, []⟩ recoveredRun).isSome = true := by decide
  have run : RecoveryRun (replayable .streaming) givenUpAttempt _ :=
    Pool.Reachable.initial.perform recoveredRun (Option.some_get performs).symm
  exact ⟨_, run, rfl, recovery_publishes_one_attempt rfl run⟩

/-! A buffered attempt that fails shows its failure only. -/

def FirstStartAhead (first : AttemptStream) (log : List Publication) : Prop :=
  ∀ event ∈ first.events, event.isStarted = true → log.head? = some ⟨some 0, event⟩

def unmendedFailure : CanonicalError :=
  ⟨.runtimeFailure, py "runtime_failed", [], false, none, by decide⟩

def unmendedAttempt : AttemptStream where
  events := [.generationStarted [], .generationFailed [] unmendedFailure]
  endsOnce := ⟨[.generationStarted []], _, rfl, rfl, by decide⟩

def bufferedRun : List (Action RecoverySurroundings RecoveryCall) :=
  .call .run :: List.replicate 8 (.run 0 (quietSurroundings .raised))

theorem buffered_failure_drops_start :
    ¬ ∀ (config : RecoveryConfig) (first : AttemptStream) (pool : RecoveryPool),
      config.initialAttemptOrdinal = 1 → RecoveryRun config first pool →
      pool.shared.progress.ended = some .returned →
      FirstStartAhead first pool.shared.progress.publications := by
  intro always
  have performs : (Pool.perform (serveRecovery (replayable .buffered))
      ⟨.initial (replayable .buffered) unmendedAttempt, []⟩ bufferedRun).isSome = true := by decide
  have run : RecoveryRun (replayable .buffered) unmendedAttempt _ :=
    Pool.Reachable.initial.perform bufferedRun (Option.some_get performs).symm
  have ahead := always _ _ _ rfl run rfl (.generationStarted []) List.mem_cons_self rfl
  cases ahead

end ExQServe.Serving
