import ExQServe.Runtime.BackendResults

/-! # Runtime sessions

The iteration of `RuntimeSession` in `runtime/exllamav3.py`: what `__anext__` does with the
results of its job. One look at the surroundings covers what runs without an await: the
head of `__anext__`, or a turn of its loop from the await on. Injection and the cancelling
of the job itself are left out. -/

namespace ExQServe.Runtime

open ExQServe.Model ExQServe.ToolWire

/-- What `__anext__` finds when it looks: how many items the job has queued behind the one
it hands over, whether the cancel event is set, whether the generator has an error, and
what `on_backend_failure` answers. -/
structure Surroundings where
  ready : Nat
  cancelled : Bool
  generatorError : Bool
  backendFailure : Option FailureCause
deriving DecidableEq, Repr

def Surroundings.calm (ready : Nat) : Surroundings := ⟨ready, false, false, none⟩

/-- The session; `backlog` is everything the job still delivers, in its order, and
`waiting` says that the loop of `__anext__` is at its await. -/
structure RuntimeSession where
  request : RuntimeGenerationRequest
  tables : ProvenanceTables
  constraintState : ConstraintEnforcementState
  pending : List SessionEvent
  terminal : Bool
  waiting : Bool
  backlog : List QueueItem

namespace RuntimeSession

inductive Progress
  | event (event : SessionEvent) (session : RuntimeSession)
  | waiting (session : RuntimeSession)
  | stopped
  | raised (raised : RuntimeRaise)

def isTerminal : SessionEvent → Bool
  | .finished _ | .cancelled _ | .failed _ _ => true
  | .started _ | .textDelta _ => false

def start (request : RuntimeGenerationRequest) (tables : ProvenanceTables)
    (constraintState : ConstraintEnforcementState) (backlog : List QueueItem) :
    RuntimeSession := ⟨request, tables, constraintState, [], false, false, backlog⟩

def deliver (session : RuntimeSession) (event : SessionEvent) (pending : List SessionEvent) :
    Progress :=
  .event event { session with
    pending := pending
    terminal := session.terminal || isTerminal event
    waiting := false }

def cancelledEvent (session : RuntimeSession) : Progress :=
  session.deliver (.cancelled session.request.requestId) session.pending

def failureEvent (session : RuntimeSession) (code : String) (message : String) (retryable : Bool)
    (cause : Option FailureCause) (codeNonBlank : NonBlank (py code)) : Progress :=
  session.deliver (.failed session.request.requestId
    ⟨.runtimeFailure, py code, py message, retryable, cause, codeNonBlank⟩) []

def generationFailed (session : RuntimeSession) (cause : Option FailureCause) : Progress :=
  session.failureEvent "generation_failed" "Inference backend generation failed."
    (cause == some .runtimeRecovering) cause (by decide)

/-- The results of a turn that are translated, and what the job still delivers. -/
def takeResults (session : RuntimeSession) (ready : Nat) (first : BackendResult)
    (backlog : List QueueItem) : Except RuntimeRaise (List BackendResult × List QueueItem) :=
  (drainReadyStreamResults first (backlog.take ready)).map fun drained =>
    (if session.tables.enabled then drained.1
      else [mergeResults first drained.1.tail],
      drained.2 ++ backlog.drop ready)

def observeResults (state : ConstraintEnforcementState) (results : List BackendResult) :
    ConstraintEnforcementState :=
  results.foldl (fun state result => state.observeTokenIds result.tokenIds) state

/-- The constraint state on the event that ends the generation. -/
def project (state : ConstraintEnforcementState) : SessionEvent → SessionEvent
  | .finished event => .finished { event with
      hardConstraintInstalled := state.installed
      hardConstraintActivated := state.activated
      effectiveGenerationGuarantee := state.effectiveGuarantee
      activatedInstalled := state.activatedInstalled
      guaranteeActivated := by
        intro guaranteed
        rw [ConstraintEnforcementState.effectiveGuarantee] at guaranteed
        split at guaranteed
        · rename_i both
          exact (Bool.and_eq_true_iff.mp both).2
        · exact absurd rfl guaranteed }
  | event => event

def turnEvents (session : RuntimeSession) (results : List BackendResult) :
    Except RuntimeRaise (List SessionEvent) :=
  let state := observeResults session.constraintState results
  let translated := results.flatMap (translateExllamav3Result session.request session.tables)
  if session.tables.enabled then
    (coalesceVerifiedRuntimeTextDeltas translated).map (List.map (project state))
  else .ok (translated.map (project state))

/-- The end of a turn: the first pending event, or another turn. -/
def settle (session : RuntimeSession) (projected : List SessionEvent) : Progress :=
  match session.pending ++ projected with
  | [] => .waiting session
  | event :: pending => session.deliver event pending

def translate (session : RuntimeSession) (around : Surroundings) (results : List BackendResult) :
    Progress :=
  if around.generatorError then session.generationFailed around.backendFailure
  else
    match session.turnEvents results with
    | .error raised => .raised raised
    | .ok projected =>
        settle { session with
          constraintState := observeResults session.constraintState results } projected

def turn (session : RuntimeSession) (around : Surroundings) (first : BackendResult)
    (backlog : List QueueItem) : Progress :=
  match session.takeResults around.ready first backlog with
  | .error _ => session.generationFailed around.backendFailure
  | .ok (results, backlog) => translate { session with backlog := backlog } around results

def advance (session : RuntimeSession) (around : Surroundings) : Progress :=
  if session.waiting then
    if around.cancelled then session.cancelledEvent
    else
      match session.backlog with
      | [] | .sentinel :: _ =>
          session.failureEvent "backend_ended_early"
            "Inference backend ended without a terminal result." false none (by decide)
      | .exception :: _ => session.generationFailed around.backendFailure
      | .result first :: backlog => session.turn around first backlog
  else
    match session.pending with
    | event :: pending =>
        if !around.cancelled && around.generatorError then
          session.generationFailed around.backendFailure
        else session.deliver event pending
    | [] =>
        if session.terminal then .stopped
        else if around.cancelled then session.cancelledEvent
        else if around.generatorError then session.generationFailed around.backendFailure
        else .waiting { session with waiting := true }

inductive Delivers : (Nat → Surroundings) → RuntimeSession → List SessionEvent → Prop
  | stopped {schedule session} :
      session.advance (schedule 0) = .stopped → Delivers schedule session []
  | event {schedule session event next events} :
      session.advance (schedule 0) = .event event next →
      Delivers (fun look => schedule (look + 1)) next events →
      Delivers schedule session (event :: events)
  | waiting {schedule session next events} :
      session.advance (schedule 0) = .waiting next →
      Delivers (fun look => schedule (look + 1)) next events →
      Delivers schedule session events

theorem Delivers.unique {schedule : Nat → Surroundings} {session : RuntimeSession}
    {events events' : List SessionEvent} (delivers : Delivers schedule session events)
    (delivers' : Delivers schedule session events') : events = events' := by
  induction delivers generalizing events' with
  | stopped stops =>
      cases delivers' with
      | stopped _ => rfl
      | event steps _ => rw [stops] at steps; cases steps
      | waiting steps _ => rw [stops] at steps; cases steps
  | event steps rest induction =>
      cases delivers' with
      | stopped stops => rw [steps] at stops; cases stops
      | event steps' rest' =>
          rw [steps] at steps'
          cases steps'
          rw [induction rest']
      | waiting steps' _ => rw [steps] at steps'; cases steps'
  | waiting steps rest induction =>
      cases delivers' with
      | stopped stops => rw [steps] at stops; cases stops
      | event steps' _ => rw [steps] at steps'; cases steps'
      | waiting steps' rest' =>
          rw [steps] at steps'
          cases steps'
          exact induction rest'

end RuntimeSession

end ExQServe.Runtime
