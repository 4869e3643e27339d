import ExQServe.Foundation.Failing
import ExQServe.Observability.Observer

/-! # Captures that fail

The observer never reads its metrics, and a capture that fails adds a metric. So what the
callers see is what they would see if no capture failed. -/

namespace ExQServe.Observability.ObservedSession

open ExQServe.Model ExQServe.Failing

variable {ε α β : Type}

def withMetrics (metrics : List MetricCall) (session : ObservedSession ε) : ObservedSession ε :=
  { session with metrics := metrics }

def behind (metrics : List MetricCall) (session : ObservedSession ε) : ObservedSession ε :=
  session.withMetrics (metrics ++ session.metrics)

@[simp] theorem withMetrics_metrics (metrics : List MetricCall) (session : ObservedSession ε) :
    (session.withMetrics metrics).metrics = metrics := rfl

@[simp] theorem withMetrics_withMetrics (first second : List MetricCall)
    (session : ObservedSession ε) :
    (session.withMetrics first).withMetrics second = session.withMetrics second := rfl

theorem behind_behind (first second : List MetricCall) (session : ObservedSession ε) :
    (session.behind second).behind first = session.behind (first ++ second) := by
  simp [behind]

/-! ## Segments -/

def endBehind (metrics : List MetricCall) :
    EStateM.Result (CallFailure ε) (ObservedSession ε) α →
      EStateM.Result (CallFailure ε) (ObservedSession ε) α
  | .ok value session => .ok value (session.behind metrics)
  | .error failure session => .error failure (session.behind metrics)

/-- The segment does the same whatever the metrics are, and adds the same ones. -/
def Blind (segment : EStateM (CallFailure ε) (ObservedSession ε) α) : Prop :=
  ∀ (metrics : List MetricCall) (session : ObservedSession ε),
    segment (session.withMetrics metrics) =
    endBehind metrics (segment (session.withMetrics []))

theorem blind_pure (value : α) : Blind (pure value : EStateM (CallFailure ε) _ α) := by
  intro metrics session
  change EStateM.Result.ok value (session.withMetrics metrics) =
    .ok value (session.withMetrics (metrics ++ []))
  rw [List.append_nil]

theorem blind_bind {first : EStateM (CallFailure ε) (ObservedSession ε) α}
    {next : α → EStateM (CallFailure ε) (ObservedSession ε) β} (here : Blind first)
    (there : ∀ value, Blind (next value)) : Blind (first >>= next) := by
  intro metrics session
  change EStateM.bind first next _ = endBehind metrics (EStateM.bind first next _)
  rw [EStateM.bind, EStateM.bind, here]
  cases first (session.withMetrics []) with
  | error failure between => rfl
  | ok value between =>
      change next value (between.withMetrics (metrics ++ between.metrics)) =
        endBehind metrics (next value (between.withMetrics between.metrics))
      rw [there, there value between.metrics]
      cases next value (between.withMetrics []) with
      | error failure final => simp [endBehind, behind_behind]
      | ok result final => simp [endBehind, behind_behind]

/-- Reading the session is blind where its metrics are not used. -/
theorem blind_get {next : ObservedSession ε → EStateM (CallFailure ε) (ObservedSession ε) α}
    (unread : ∀ (read : ObservedSession ε) (metrics : List MetricCall),
      next (read.withMetrics metrics) = next (read.withMetrics []))
    (there : ∀ read, Blind (next read)) : Blind (get >>= next) := by
  intro metrics session
  change next (session.withMetrics metrics) (session.withMetrics metrics) =
    endBehind metrics (next (session.withMetrics []) (session.withMetrics []))
  rw [unread]
  exact there _ metrics session

theorem blind_modify {change : ObservedSession ε → ObservedSession ε}
    (keeps : ∀ session metrics,
      change (session.withMetrics metrics) = (change session).withMetrics metrics) :
    Blind (modify change : EStateM (CallFailure ε) _ PUnit) := by
  intro metrics session
  show EStateM.Result.ok PUnit.unit (change (session.withMetrics metrics)) =
    .ok PUnit.unit ((change (session.withMetrics [])).behind metrics)
  rw [keeps, keeps]
  simp [behind]

variable {config : ObserverConfig}

theorem blind_readClock : Blind (readClock config : Segment ε Int) := by
  intro metrics session
  simp [readClock, withMetrics, endBehind, behind]

theorem blind_countAll (calls : List MetricCall) : Blind (countAll calls : Segment ε Unit) := by
  intro metrics session
  simp [countAll, withMetrics, endBehind, behind]

theorem blind_count (call : MetricCall) : Blind (count call : Segment ε Unit) := by
  intro metrics session
  rw [count, count]
  split
  · simp [withMetrics, endBehind, behind]
  · simp [withMetrics, endBehind, behind]

theorem blind_finalize (diagnostics : Option SessionDiagnostics) (status : FinishedStatus)
    (error : Option CanonicalError) :
    Blind (finalize config diagnostics status error : Segment ε Unit) := by
  apply blind_get
  · intro read metrics
    rfl
  · intro read
    split
    · exact blind_pure ()
    · apply blind_bind (blind_modify fun _ _ => rfl)
      intro _
      apply blind_bind blind_readClock
      intro now
      apply blind_bind (blind_modify fun _ _ => rfl)
      intro _
      apply blind_bind (blind_countAll _)
      intro _
      apply blind_bind (blind_countAll _)
      intro _
      exact blind_count _

theorem blind_observeSemantic (event : ServingEvent) :
    Blind (observeSemantic config event : Segment ε (Option Int)) := by
  apply blind_get
  · intro read metrics
    rfl
  · intro read
    split
    · apply blind_bind blind_readClock
      intro now
      apply blind_bind (blind_modify fun _ _ => rfl)
      intro _
      exact blind_bind (blind_count _) fun _ => blind_pure _
    · exact blind_pure _

theorem blind_observeTool (event : ServingEvent) (semanticNow : Option Int) :
    Blind (observeTool config event semanticNow : Segment ε Unit) := by
  apply blind_get
  · intro read metrics
    rfl
  · intro read
    split
    · have reads : Blind (toolClock config semanticNow : Segment ε Int) := by
        cases semanticNow with
        | none => exact blind_readClock
        | some now => exact blind_pure now
      apply blind_bind reads
      intro now
      exact blind_bind (blind_modify fun _ _ => rfl) fun _ => blind_count _
    · exact blind_pure ()

theorem blind_observe (diagnostics : Option SessionDiagnostics) (event : ServingEvent) :
    Blind (observe config diagnostics event : Segment ε Unit) := by
  apply blind_bind (blind_observeSemantic event)
  intro semanticNow
  apply blind_bind (blind_observeTool event semanticNow)
  intro _
  cases event with
  | generationStarted | semantic => exact blind_pure ()
  | timingUpdated | usageUpdated => exact blind_modify fun _ _ => rfl
  | generationCompleted requestId reason usage stopSequence =>
      exact blind_bind (blind_modify fun _ _ => rfl) fun _ => blind_finalize _ _ _
  | generationFailed | generationCancelled => exact blind_finalize _ _ _

/-! ## Steps -/

/-- The code does the same whatever the metrics are, and adds the same ones. -/
def BlindStep (change : ObservedSession ε → ObservedSession ε) : Prop :=
  ∀ (metrics : List MetricCall) (session : ObservedSession ε),
    change (session.withMetrics metrics) = (change (session.withMetrics [])).behind metrics

/-- Code that neither reads nor writes the metrics. -/
theorem blindStep_of_keeps {change : ObservedSession ε → ObservedSession ε}
    (keeps : ∀ session metrics,
      change (session.withMetrics metrics) = (change session).withMetrics metrics) :
    BlindStep change := by
  intro metrics session
  rw [keeps, keeps]
  simp [behind]

theorem blindStep_deliver (result : CallResult ε) : BlindStep (deliver result) :=
  blindStep_of_keeps fun _ _ => rfl

theorem blindStep_writeCapture (result : CallResult ε) :
    BlindStep (writeCapture config result) := by
  apply blindStep_of_keeps
  intro session metrics
  cases written : session.captureWritten with
  | true => simp [writeCapture, withMetrics, deliver, written]
  | false =>
      cases enabled : config.captureEnabled with
      | false => simp [writeCapture, withMetrics, deliver, written, enabled]
      | true =>
          cases status : session.terminalStatus with
          | none => simp [writeCapture, withMetrics, deliver, written, enabled, status]
          | some status =>
              cases elapsed : session.elapsedSeconds with
              | none => simp_all [writeCapture, withMetrics, deliver]
              | some elapsed => simp_all [writeCapture, withMetrics]

theorem blindStep_after {segment : Segment ε Unit} (result : CallResult ε)
    {following : ObservedSession ε → ObservedSession ε} (blind : Blind segment)
    (follows : BlindStep following) : BlindStep (after segment result following) := by
  intro metrics session
  rw [after, after, blind]
  cases segment (session.withMetrics []) with
  | error failure final => rfl
  | ok value final =>
      change following (final.withMetrics (metrics ++ final.metrics)) =
        (following (final.withMetrics final.metrics)).behind metrics
      rw [follows, follows final.metrics, behind_behind]

theorem blindStep_ite (condition : ObservedSession ε → Bool)
    {first second : ObservedSession ε → ObservedSession ε}
    (unread : ∀ session metrics, condition (session.withMetrics metrics) = condition session)
    (here : BlindStep first) (there : BlindStep second) :
    BlindStep fun session => if condition session then first session else second session := by
  intro metrics session
  simp only [unread]
  split
  · exact here metrics session
  · exact there metrics session

theorem blindStep_finish (diagnostics : Option SessionDiagnostics) (status : FinishedStatus)
    (result : CallResult ε) : BlindStep (finish config diagnostics status result) :=
  blindStep_after result (blind_finalize _ _ _) (blindStep_writeCapture result)

theorem blindStep_iterationStep (diagnostics : Option SessionDiagnostics)
    (outcome : IterationOutcome ε) :
    BlindStep fun session => iterationStep config diagnostics session outcome := by
  cases outcome with
  | event event =>
      have result : BlindStep fun session : ObservedSession ε =>
          if session.terminal then session.writeCapture config (.delivered event)
          else session.deliver (.delivered event) :=
        blindStep_ite terminal (fun _ _ => rfl) (blindStep_writeCapture _) (blindStep_deliver _)
      have observes : Blind (observe config diagnostics event : Segment ε Unit) :=
        blind_observe diagnostics event
      intro metrics session
      exact blindStep_after (.delivered event) observes result metrics
        { session with capturedEvents := session.capturedEvents.map (· ++ [event]) }
  | stopAsyncIteration =>
      exact blindStep_ite terminal (fun _ _ => rfl) (blindStep_deliver _) (blindStep_finish _ _ _)
  | raised error =>
      exact blindStep_ite terminal (fun _ _ => rfl) (blindStep_deliver _) (blindStep_finish _ _ _)
  | cancelled => exact blindStep_deliver _

theorem blindStep_cancelStep (diagnostics : Option SessionDiagnostics)
    (outcome : TaskOutcome ε Unit) :
    BlindStep fun session => cancelStep config diagnostics session outcome := by
  cases outcome with
  | returned value => exact blindStep_finish _ _ _
  | raised error => exact blindStep_finish _ _ _
  | cancelled => exact blindStep_deliver _

/-! ## Runs -/

/-- The sessions differ in the captures that were counted as failed, and in nothing else. -/
structure SameCalls (failing calm : ObservedSession ε) : Prop where
  rest : failing.withMetrics [] = calm.withMetrics []
  metrics : failing.metrics.filter (· ≠ .captureFailed) =
    calm.metrics.filter (· ≠ .captureFailed)

def calmAction : Action ε → Action ε
  | .captureEnded (.raised _) => .captureEnded (.returned ())
  | action => action

variable {failing calm : ObservedSession ε}

theorem SameCalls.refl (session : ObservedSession ε) : SameCalls session session := ⟨rfl, rfl⟩

theorem SameCalls.results (same : SameCalls failing calm) : failing.results = calm.results := by
  have rest := congrArg ObservedSession.results same.rest
  exact rest

theorem SameCalls.blind (same : SameCalls failing calm)
    {change : ObservedSession ε → ObservedSession ε} (blind : BlindStep change) :
    SameCalls (change failing) (change calm) := by
  have whole : ∀ session, change session =
      (change (session.withMetrics [])).behind session.metrics := fun session =>
    blind session.metrics session
  rw [whole failing, whole calm, same.rest]
  refine ⟨rfl, ?_⟩
  simp only [behind, withMetrics_metrics, List.filter_append, same.metrics]

theorem SameCalls.step (same : SameCalls failing calm) (action : Action ε)
    {next : ObservedSession ε} (taken : failing.step config action = some next) :
    ∃ calmNext, calm.step config (calmAction action) = some calmNext ∧
      SameCalls next calmNext := by
  have terminal := congrArg ObservedSession.terminal same.rest
  have cancelling := congrArg ObservedSession.cancelling same.rest
  have capturing := congrArg ObservedSession.capturing same.rest
  change failing.terminal = calm.terminal at terminal
  change failing.cancelling = calm.cancelling at cancelling
  change failing.capturing = calm.capturing at capturing
  cases action with
  | iterationEnded outcome diagnostics =>
      cases taken
      exact ⟨_, rfl, same.blind (blindStep_iterationStep diagnostics outcome)⟩
  | cancelCalled =>
      rw [ObservedSession.step] at taken
      split at taken
      · rename_i closed
        cases taken
        rw [terminal] at closed
        exact ⟨_, if_pos closed, same.blind (blindStep_deliver _)⟩
      · rename_i active
        cases taken
        rw [terminal] at active
        have waits : BlindStep fun session : ObservedSession ε =>
            { session with cancelling := session.cancelling + 1 } :=
          blindStep_of_keeps fun _ _ => rfl
        exact ⟨_, if_neg active, same.blind waits⟩
  | cancelEnded outcome diagnostics =>
      rw [ObservedSession.step] at taken
      split at taken
      · cases taken
      · rename_i others stands
        cases taken
        have waits : BlindStep fun session : ObservedSession ε =>
            { session with cancelling := others } := blindStep_of_keeps fun _ _ => rfl
        refine ⟨_, ?_, (same.blind waits).blind (blindStep_cancelStep diagnostics outcome)⟩
        simp only [calmAction, ObservedSession.step, ← cancelling, stands]
  | captureEnded outcome =>
      rw [ObservedSession.step] at taken
      split at taken
      · cases taken
      · rename_i result stands
        cases taken
        have released : BlindStep fun session : ObservedSession ε =>
            { session with capturing := none } := blindStep_of_keeps fun _ _ => rfl
        have waits := same.blind released
        have taken : ∀ outcome, calm.step config (.captureEnded outcome) =
            some ({ calm with capturing := none }.captureStep result outcome) := by
          intro outcome
          simp only [ObservedSession.step, ← capturing, stands]
        cases outcome with
        | returned value => exact ⟨_, taken _, waits.blind (blindStep_deliver result)⟩
        | raised error =>
            refine ⟨_, taken _, ?_⟩
            have counted : SameCalls { failing with
                capturing := none, metrics := failing.metrics ++ [.captureFailed] }
                { calm with capturing := none } := by
              refine ⟨waits.rest, ?_⟩
              simpa [List.filter_append] using same.metrics
            exact counted.blind (blindStep_deliver result)
        | cancelled => exact ⟨_, taken _, waits.blind (blindStep_deliver result.cancelled)⟩

/-- A run goes as it would go if no capture failed. -/
theorem sameCalls_of_runs {raw : Bool} {actions : List (Action ε)}
    {session : ObservedSession ε} (run : (machine ε config raw).Runs actions session) :
    ∃ calm, (machine ε config raw).Runs (actions.map calmAction) calm ∧
      SameCalls session calm := by
  apply @Machine.Runs.invariant _ _ _ (fun actions session => ∃ calm,
    (machine ε config raw).Runs (actions.map calmAction) calm ∧ SameCalls session calm) _ _ _ _ run
  · exact ⟨_, Machine.runs_nil, .refl _⟩
  · rintro earlier before action next _ ⟨calm, calmRun, same⟩ taken
    rcases same.step action taken with ⟨calmNext, calmTaken, sameNext⟩
    refine ⟨calmNext, ?_, sameNext⟩
    rw [List.map_append]
    exact calmRun.snoc calmTaken

end ExQServe.Observability.ObservedSession
