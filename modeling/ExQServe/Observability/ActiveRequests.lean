import ExQServe.Observability.CaptureFailures

/-! # The gauge of active requests

An accepted request raises the gauge once. It lowers it at most once, and has lowered it when
a call is left that ends the request, unless that call is a `cancel` that was itself cancelled
while it waited for the inner session. -/

namespace ExQServe.Observability

open ExQServe.Model ExQServe.Failing

variable {ε : Type}

def CallResult.settles : CallResult ε → Bool
  | .delivered event => event.isTerminal
  | .stopAsyncIteration | .iterationRaised _ => true
  | .iterationCancelled => false
  | .cancelReturned | .cancelRaised _ | .cancelCancelled => true

namespace ObservedSession

def startedCount (session : ObservedSession ε) : Nat :=
  session.metrics.count .requestStarted

def finishedCount (session : ObservedSession ε) : Nat :=
  session.metrics.countP MetricCall.isFinished

/-- The request was counted as started, and as finished exactly when the session is terminal;
a call that settles the request was left in a terminal session. -/
structure Counted (config : ObserverConfig) (session : ObservedSession ε) : Prop where
  started : session.startedCount = 1
  finished : session.finishedCount = if session.terminal then 1 else 0
  since : session.startedAt = config.clock 0
  capturing : session.capturing ≠ none → session.terminal = true
  settled : ∀ result ∈ session.results, result.settles = true → session.terminal = true

variable {config : ObserverConfig}

theorem counted_new (raw : Bool) : Counted config (new config raw : ObservedSession ε) where
  started := rfl
  finished := rfl
  since := rfl
  capturing absent := absurd rfl absent
  settled result member := by cases member

namespace Counted

variable {session : ObservedSession ε}

theorem deliver (counted : Counted config session) {result : CallResult ε}
    (ends : result.settles = true → session.terminal = true) :
    Counted config (session.deliver result) where
  started := counted.started
  finished := counted.finished
  since := counted.since
  capturing := counted.capturing
  settled other member settles := by
    rcases List.mem_append.mp member with earlier | last
    · exact counted.settled other earlier settles
    · rw [List.mem_singleton.mp last] at settles
      exact ends settles

theorem elapsed_nonneg (counted : Counted config session) (monotone : Monotone config.clock)
    (reading : Nat) : 0 ≤ config.clock reading - session.startedAt := by
  have later := monotone (Nat.zero_le reading)
  rw [counted.since]
  omega

end Counted

/-! ## Segments -/

def afterFinalize (config : ObserverConfig) (diagnostics : Option SessionDiagnostics)
    (status : FinishedStatus) (error : Option CanonicalError) (session : ObservedSession ε) :
    ObservedSession ε :=
  let elapsed := config.clock session.clockReadings - session.startedAt
  { session with
    clockReadings := session.clockReadings + 1
    terminal := true
    terminalStatus := some status
    terminalError := error
    elapsedSeconds := some elapsed
    metrics := session.metrics ++ [.observeBackend session.timing session.usage] ++
      observeRecoveryMetrics diagnostics error (py "serving") (status == .failed) ++
      [.requestFinished status elapsed] }

variable {diagnostics : Option SessionDiagnostics} {status : FinishedStatus}
  {error : Option CanonicalError} {session : ObservedSession ε}

theorem finalize_terminal (closed : session.terminal = true) :
    finalize config diagnostics status error session = .ok () session := by
  change (if session.terminal then pure () else _ : Segment ε Unit) session = _
  rw [if_pos closed]
  rfl

theorem finalize_open (active : session.terminal = false)
    (elapsed : 0 ≤ config.clock session.clockReadings - session.startedAt) :
    finalize config diagnostics status error session =
      .ok () (session.afterFinalize config diagnostics status error) := by
  change (if session.terminal then pure () else _ : Segment ε Unit) session = _
  rw [if_neg (by simp [active])]
  change count (.requestFinished status
    (config.clock session.clockReadings - session.startedAt)) _ = _
  rw [count, if_neg (by simpa [MetricCall.elapsed?] using elapsed)]
  rfl

def Aside (call : MetricCall) : Prop := call ≠ .requestStarted ∧ call.isFinished = false

theorem recoveryCalls_aside (diagnostics : SessionDiagnostics) :
    ∀ call ∈ recoveryCalls diagnostics, Aside call := by
  intro call member
  unfold recoveryCalls at member
  rcases List.mem_append.mp member with attempts | skipped
  · split at attempts
    · split at attempts
      all_goals
        simp only [List.mem_cons, List.not_mem_nil, or_false] at attempts
        rcases attempts with rfl | rfl <;> simp [Aside, MetricCall.isFinished]
    · cases attempts
  · split at skipped
    · cases skipped
    · split at skipped
      · cases skipped
      · split at skipped
        all_goals
          simp only [List.mem_cons, List.not_mem_nil, or_false] at skipped
          rcases skipped with rfl | rfl <;> simp [Aside, MetricCall.isFinished]

theorem observeRecoveryMetrics_aside (diagnostics : Option SessionDiagnostics)
    (error : Option CanonicalError) (surface : PyStr) (failed : Bool) :
    ∀ call ∈ observeRecoveryMetrics diagnostics error surface failed, Aside call := by
  intro call member
  unfold observeRecoveryMetrics at member
  rcases List.mem_append.mp member with recovery | terminal
  · split at recovery
    · cases recovery
    · exact recoveryCalls_aside _ call recovery
  · split at terminal
    · cases terminal
    · split at terminal
      · rw [List.mem_singleton.mp terminal]
        exact ⟨nofun, rfl⟩
      · cases terminal

theorem count_started_aside {calls : List MetricCall} (aside : ∀ call ∈ calls, Aside call) :
    calls.count .requestStarted = 0 :=
  List.count_eq_zero.mpr fun member => (aside _ member).1 rfl

theorem countP_finished_aside {calls : List MetricCall} (aside : ∀ call ∈ calls, Aside call) :
    calls.countP MetricCall.isFinished = 0 :=
  List.countP_eq_zero.mpr fun call member => by simp [(aside call member).2]

/-- Other metrics do not matter to the gauge. -/
theorem Counted.aside (counted : Counted config session) {calls : List MetricCall}
    (aside : ∀ call ∈ calls, Aside call) :
    Counted config { session with metrics := session.metrics ++ calls } where
  started := by
    rw [startedCount, List.count_append, count_started_aside aside]
    exact counted.started
  finished := by
    rw [finishedCount, List.countP_append, countP_finished_aside aside]
    exact counted.finished
  since := counted.since
  capturing := counted.capturing
  settled := counted.settled

theorem Counted.finalized (counted : Counted config session) (active : session.terminal = false) :
    Counted config (session.afterFinalize config diagnostics status error) where
  started := by
    have aside := count_started_aside
      (observeRecoveryMetrics_aside diagnostics error (py "serving") (status == .failed))
    have started := counted.started
    rw [startedCount] at started ⊢
    simp [afterFinalize, started, aside]
  finished := by
    have aside := countP_finished_aside
      (observeRecoveryMetrics_aside diagnostics error (py "serving") (status == .failed))
    have unfinished := counted.finished
    rw [active, finishedCount] at unfinished
    rw [finishedCount]
    simp [afterFinalize, unfinished, aside, MetricCall.isFinished]
  since := counted.since
  capturing _ := rfl
  settled _ _ _ := rfl

/-- `_finalize` leaves a terminal session that was counted as finished once. -/
theorem finalize_ends (monotone : Monotone config.clock)
    (diagnostics : Option SessionDiagnostics) (status : FinishedStatus)
    (error : Option CanonicalError) :
    Ends (Counted config) (finalize config diagnostics status error : Segment ε Unit)
      fun _ session => Counted config session ∧ session.terminal = true := by
  intro session counted
  cases active : session.terminal with
  | true => exact ⟨(), session, finalize_terminal active, counted, active⟩
  | false =>
      have elapsed := counted.elapsed_nonneg monotone session.clockReadings
      exact ⟨(), _, finalize_open active elapsed, counted.finalized active, rfl⟩

theorem count_ends {call : MetricCall} (aside : Aside call)
    (elapsed : ∀ seconds ∈ call.elapsed?, 0 ≤ seconds) :
    Ends (Counted config) (count call : Segment ε Unit) fun _ => Counted config := by
  intro session counted
  refine ⟨(), { session with metrics := session.metrics ++ [call] }, ?_, counted.aside ?_⟩
  · rw [count, if_neg]
    rw [Bool.not_eq_true, Option.any_eq_false]
    intro seconds found
    simpa using elapsed seconds found
  · intro other member
    rw [List.mem_singleton.mp member]
    exact aside

theorem get_ends : Ends (Counted config) (get : Segment ε (ObservedSession ε))
    fun read session => Counted config read ∧ Counted config session :=
  fun session counted => ⟨session, session, rfl, counted, counted⟩

theorem modify_ends {change : ObservedSession ε → ObservedSession ε}
    (keeps : ∀ session, Counted config session → Counted config (change session)) :
    Ends (Counted config) (modify change : Segment ε PUnit) fun _ => Counted config :=
  fun session counted => ⟨⟨⟩, change session, rfl, keeps session counted⟩

theorem readClock_ends : Ends (Counted config) (readClock config : Segment ε Int)
    fun now session => (∃ reading, now = config.clock reading) ∧ Counted config session := by
  intro session counted
  exact ⟨_, _, rfl, ⟨_, rfl⟩,
    ⟨counted.started, counted.finished, counted.since, counted.capturing, counted.settled⟩⟩

/-- A time since the start is counted. -/
theorem count_time_ends (monotone : Monotone config.clock) {read : ObservedSession ε}
    (counted : Counted config read) {now : Int} (reading : ∃ reading, now = config.clock reading)
    (metric : Int → MetricCall) (aside : ∀ elapsed, Aside (metric elapsed))
    (timed : ∀ elapsed, (metric elapsed).elapsed? = some elapsed) :
    Ends (Counted config) (count (metric (now - read.startedAt)) : Segment ε Unit)
      fun _ => Counted config := by
  rcases reading with ⟨reading, rfl⟩
  apply count_ends (aside _)
  intro seconds found
  rw [timed] at found
  rw [← Option.some.inj found]
  exact counted.elapsed_nonneg monotone reading

theorem observeSemantic_ends (monotone : Monotone config.clock) (event : ServingEvent) :
    Ends (Counted config) (observeSemantic config event : Segment ε (Option Int))
      fun value session => (∀ now ∈ value, ∃ reading, now = config.clock reading) ∧
        Counted config session := by
  apply ends_bind get_ends
  intro read
  split
  · rintro session ⟨countedRead, counted⟩
    refine ends_bind readClock_ends (fun now => ?_) session counted
    rintro session ⟨reading, counted⟩
    have keeps : ∀ session : ObservedSession ε, Counted config session →
        Counted config { session with firstSemanticSeen := true } := fun _ counted =>
      ⟨counted.started, counted.finished, counted.since, counted.capturing, counted.settled⟩
    refine ends_bind (modify_ends keeps) (fun _ => ends_bind
      (count_time_ends monotone countedRead reading .observeTtfe (fun _ => ⟨nofun, rfl⟩) fun _ =>
        rfl)
      fun _ => ends_pure ?_) session counted
    intro session counted
    refine ⟨?_, counted⟩
    rintro _ ⟨⟩
    exact reading
  · exact ends_pure fun session counted => ⟨by simp, counted.2⟩

theorem observeTool_ends (monotone : Monotone config.clock) (event : ServingEvent)
    (semanticNow : Option Int)
    (reading : ∀ now ∈ semanticNow, ∃ reading, now = config.clock reading) :
    Ends (Counted config) (observeTool config event semanticNow : Segment ε Unit)
      fun _ => Counted config := by
  apply ends_bind get_ends
  intro read
  split
  · rintro session ⟨countedRead, counted⟩
    have now_ends : Ends (Counted config) (toolClock config semanticNow : Segment ε Int)
        fun now session => (∃ reading, now = config.clock reading) ∧ Counted config session := by
      cases semanticNow with
      | none => exact readClock_ends
      | some now => exact ends_pure fun session counted => ⟨reading now rfl, counted⟩
    refine ends_bind now_ends (fun now => ?_) session counted
    rintro session ⟨reading, counted⟩
    have keeps : ∀ session : ObservedSession ε, Counted config session →
        Counted config { session with toolStartSeen := true } := fun _ counted =>
      ⟨counted.started, counted.finished, counted.since, counted.capturing, counted.settled⟩
    exact ends_bind (modify_ends keeps) (fun _ =>
      count_time_ends monotone countedRead reading .observeToolStart (fun _ => ⟨nofun, rfl⟩)
        fun _ => rfl)
      session counted
  · exact ends_pure fun session counted => counted.2

/-- `_observe` ends, and leaves a terminal session behind a terminal event. -/
theorem observe_ends (monotone : Monotone config.clock) (diagnostics : Option SessionDiagnostics)
    (event : ServingEvent) :
    Ends (Counted config) (observe config diagnostics event : Segment ε Unit)
      fun _ session => Counted config session ∧
        (event.isTerminal = true → session.terminal = true) := by
  apply ends_bind (observeSemantic_ends monotone event)
  rintro semanticNow session ⟨reading, counted⟩
  refine ends_bind (observeTool_ends monotone event semanticNow reading) (fun _ => ?_) session
    counted
  have finalizes := fun status error => finalize_ends (ε := ε) monotone diagnostics status error
  cases event with
  | generationStarted | semantic => exact ends_pure fun session counted => ⟨counted, nofun⟩
  | timingUpdated requestId timing =>
      intro session counted
      exact ⟨_, _, rfl, ⟨counted.started, counted.finished, counted.since, counted.capturing,
        counted.settled⟩, nofun⟩
  | usageUpdated requestId usage =>
      intro session counted
      exact ⟨_, _, rfl, ⟨counted.started, counted.finished, counted.since, counted.capturing,
        counted.settled⟩, nofun⟩
  | generationCompleted requestId reason usage stopSequence =>
      refine ends_bind (modify_ends fun session counted => ?_) fun _ session counted => ?_
      · exact ⟨counted.started, counted.finished, counted.since, counted.capturing,
          counted.settled⟩
      · rcases finalizes .completed none session counted with ⟨value, final, ended, holds⟩
        exact ⟨value, final, ended, holds.1, fun _ => holds.2⟩
  | generationFailed requestId error =>
      intro session counted
      rcases finalizes .failed (some error) session counted with ⟨value, final, ended, holds⟩
      exact ⟨value, final, ended, holds.1, fun _ => holds.2⟩
  | generationCancelled requestId =>
      intro session counted
      rcases finalizes .cancelled none session counted with ⟨value, final, ended, holds⟩
      exact ⟨value, final, ended, holds.1, fun _ => holds.2⟩

/-! ## Steps -/

theorem Counted.writeCapture (counted : Counted config session) (result : CallResult ε)
    (closed : session.terminal = true) : Counted config (session.writeCapture config result) := by
  have delivers : ∀ (other : ObservedSession ε) (result : CallResult ε), Counted config other →
      other.terminal = true → Counted config (other.deliver result) :=
    fun other result counted closed => counted.deliver fun _ => closed
  have written : Counted config { session with captureWritten := true } :=
    ⟨counted.started, counted.finished, counted.since, counted.capturing, counted.settled⟩
  unfold ObservedSession.writeCapture
  split
  · exact delivers _ _ counted closed
  · dsimp only
    split
    · split
      · exact ⟨counted.started, counted.finished, counted.since, fun _ => closed,
          counted.settled⟩
      · exact delivers _ _ written closed
    · exact delivers _ _ written closed

/-- What follows a segment keeps the counts when it keeps them behind the segment's end. -/
theorem counted_after {segment : Segment ε Unit} {result : CallResult ε}
    {following : ObservedSession ε → ObservedSession ε} {behind : ObservedSession ε → Prop}
    (ends : Ends (Counted config) segment fun _ session => Counted config session ∧ behind session)
    (keeps : ∀ session, Counted config session → behind session →
      Counted config (following session))
    (counted : Counted config session) :
    Counted config (after segment result following session) := by
  rcases ends session counted with ⟨value, final, ended, counted, holds⟩
  rw [after, ended]
  exact keeps final counted holds

theorem Counted.finish (counted : Counted config session) (monotone : Monotone config.clock)
    (diagnostics : Option SessionDiagnostics) (status : FinishedStatus) (result : CallResult ε) :
    Counted config (session.finish config diagnostics status result) :=
  counted_after (finalize_ends monotone diagnostics status none)
    (fun _ counted closed => counted.writeCapture result closed) counted

theorem Counted.iterationStep (counted : Counted config session)
    (monotone : Monotone config.clock) (diagnostics : Option SessionDiagnostics)
    (outcome : IterationOutcome ε) :
    Counted config (session.iterationStep config diagnostics outcome) := by
  cases outcome with
  | event event =>
      refine counted_after (observe_ends monotone diagnostics event) ?_
        ⟨counted.started, counted.finished, counted.since, counted.capturing, counted.settled⟩
      intro following counted terminal
      split
      · rename_i closed
        exact counted.writeCapture _ closed
      · exact counted.deliver terminal
  | stopAsyncIteration =>
      rw [ObservedSession.iterationStep]
      split
      · rename_i closed
        exact counted.deliver fun _ => closed
      · exact counted.finish monotone diagnostics .failed _
  | raised error =>
      rw [ObservedSession.iterationStep]
      split
      · rename_i closed
        exact counted.deliver fun _ => closed
      · exact counted.finish monotone diagnostics .failed _
  | cancelled => exact counted.deliver nofun

/-- A `cancel` that waits for the inner session is cancelled before the request has ended. -/
def CutsCancel (session : ObservedSession ε) : Action ε → Prop
  | .cancelEnded .cancelled _ => session.cancelling ≠ 0 ∧ session.terminal = false
  | _ => False

theorem Counted.step (counted : Counted config session) (monotone : Monotone config.clock)
    {action : Action ε} (uncut : ¬ session.CutsCancel action) {next : ObservedSession ε}
    (taken : session.step config action = some next) : Counted config next := by
  cases action with
  | iterationEnded outcome diagnostics =>
      cases taken
      exact counted.iterationStep monotone diagnostics outcome
  | cancelCalled =>
      rw [ObservedSession.step] at taken
      split at taken
      · rename_i closed
        cases taken
        exact counted.deliver fun _ => closed
      · cases taken
        exact ⟨counted.started, counted.finished, counted.since, counted.capturing,
          counted.settled⟩
  | cancelEnded outcome diagnostics =>
      rw [ObservedSession.step] at taken
      split at taken
      · cases taken
      · rename_i cancelling stands
        cases taken
        have waiting : Counted config { session with cancelling := cancelling } :=
          ⟨counted.started, counted.finished, counted.since, counted.capturing, counted.settled⟩
        cases outcome with
        | returned => exact waiting.finish monotone diagnostics .cancelled _
        | raised error => exact waiting.finish monotone diagnostics .failed _
        | cancelled =>
            exact waiting.deliver fun _ => (Bool.not_eq_false _).mp fun active =>
              uncut ⟨by simp [stands], active⟩
  | captureEnded outcome =>
      rw [ObservedSession.step] at taken
      split at taken
      · cases taken
      · rename_i result waiting
        cases taken
        have closed : session.terminal = true := counted.capturing (by simp [waiting])
        have released : Counted config { session with capturing := none } :=
          ⟨counted.started, counted.finished, counted.since, fun absent => absurd rfl absent,
            counted.settled⟩
        cases outcome with
        | returned => exact released.deliver fun _ => closed
        | raised error =>
            have failure : ∀ call ∈ [MetricCall.captureFailed], Aside call := by
              intro call member
              rw [List.mem_singleton.mp member]
              exact ⟨fun other => (by cases other), rfl⟩
            exact (released.aside failure).deliver fun _ => closed
        | cancelled => exact released.deliver fun _ => closed

/-- The request was started once and finished at most once, and it was finished if a call was
left that settles it. -/
def Undrifted (session : ObservedSession ε) : Prop :=
  session.startedCount = 1 ∧ session.finishedCount ≤ 1 ∧
    ∀ result ∈ session.results, result.settles = true → session.finishedCount = 1

theorem Counted.undrifted (counted : Counted config session) : session.Undrifted := by
  refine ⟨counted.started, ?_, fun result member settles => ?_⟩
  · rw [counted.finished]
    split <;> simp
  · rw [counted.finished, if_pos (counted.settled result member settles)]

/-- A `cancel` that is cut off leaves the request active. -/
theorem Counted.drifts (counted : Counted config session) {action : Action ε}
    (cut : session.CutsCancel action) :
    ∃ next, session.step config action = some next ∧ ¬ next.Undrifted := by
  rcases action with _ | _ | ⟨outcome, diagnostics⟩ | _
  · cases cut
  · cases cut
  · rcases outcome with _ | _ | _
    · cases cut
    · cases cut
    · rcases cut with ⟨waits, active⟩
      rcases Nat.exists_eq_succ_of_ne_zero waits with ⟨cancelling, stands⟩
      refine ⟨_, by simp only [ObservedSession.step, stands]; rfl, ?_⟩
      rintro ⟨_, _, settled⟩
      have unfinished := counted.finished
      rw [active] at unfinished
      have finished := settled .cancelCancelled
        (List.mem_append_right _ (List.mem_singleton_self _))
        rfl
      change session.finishedCount = 1 at finished
      rw [unfinished] at finished
      cases finished
  · cases cut

/-- The gauge does not drift in a run exactly when no `cancel` is cut off while the request is
active; and in every run the callers get what they would get if no capture failed, and the
other metrics are the same. -/
theorem active_requests_undrifted (config : ObserverConfig) (monotone : Monotone config.clock)
    (raw : Bool) (actions : List (Action ε)) :
    ((machine ε config raw).Throughout Undrifted actions ↔
      ¬ (machine ε config raw).Passes CutsCancel actions) ∧
    ∀ session, (machine ε config raw).Runs actions session →
      ∃ calm, (machine ε config raw).Runs (actions.map calmAction) calm ∧
        SameCalls session calm ∧ session.results = calm.results := by
  constructor
  · exact Machine.throughout_iff (counted_new raw)
      (fun _ _ _ counted uncut taken => counted.step monotone uncut taken)
      (fun _ counted => counted.undrifted) (fun _ _ counted cut => counted.drifts cut) actions
  · intro session run
    rcases sameCalls_of_runs run with ⟨calm, calmRun, same⟩
    exact ⟨calm, calmRun, same, same.results⟩

def countingObserver : ObserverConfig := ⟨fun reading => reading, false, false⟩

def capturingObserver : ObserverConfig := ⟨fun reading => reading, true, true⟩

def deltaEvent : ServingEvent := .semantic (.textDelta (py "r") (py "a"))

def terminalEvent : ServingEvent := .generationCompleted (py "r") .stop none none

/-- An answer to its end, whose capture is lost, and a cancel behind it. -/
def answeredRequest : List (Action Unit) :=
  [.iterationEnded (.event deltaEvent) none, .iterationEnded (.event terminalEvent) none,
    .captureEnded (.raised ()), .cancelCalled]

theorem active_requests_undrifted_counting :
    (machine Unit capturingObserver false).Throughout Undrifted answeredRequest ∧
    ∃ session, (machine Unit capturingObserver false).Runs answeredRequest session ∧
      session.finishedCount = 1 ∧
      session.results = [.delivered deltaEvent, .delivered terminalEvent, .cancelReturned] ∧
      ∃ calm, (machine Unit capturingObserver false).Runs (answeredRequest.map calmAction) calm ∧
        SameCalls session calm ∧ session.results = calm.results := by
  have whole := active_requests_undrifted capturingObserver
    (fun _ _ ordered => Int.ofNat_le.mpr ordered) false answeredRequest
  have uncut : ¬ (machine Unit capturingObserver false).Passes CutsCancel answeredRequest := by
    intro passes
    rcases passes with ⟨before, action, after, session, split, _, cuts⟩
    have member : action ∈ answeredRequest := by rw [split]; simp
    simp only [answeredRequest, List.mem_cons, List.not_mem_nil, or_false] at member
    rcases member with rfl | rfl | rfl | rfl <;> cases cuts
  have run : (machine Unit capturingObserver false).Runs answeredRequest _ := rfl
  exact ⟨whole.1.mpr uncut, _, run, rfl, rfl, whole.2 _ run⟩

/-- The task that cancels a request is itself cancelled: the call of `cancel` is left, and the
request stays active. -/
theorem cut_cancel_drifts :
    ∃ session, (machine Unit countingObserver false).Runs
        [.cancelCalled, .cancelEnded .cancelled none] session ∧
      session.results = [.cancelCancelled] ∧ session.finishedCount = 0 :=
  ⟨_, rfl, rfl, rfl⟩

end ObservedSession

end ExQServe.Observability
