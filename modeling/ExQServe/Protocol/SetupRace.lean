import ExQServe.Foundation.Machines

/-! # The race between stream setup and disconnect

`_race_stream_setup_disconnect` runs the setup coroutine beside a task that waits for
the client to go away. The states of the race are those in which the calling task is
suspended; everything between two of its suspensions is one step. The two tasks end at
any time and in any way, and the calling task may be cancelled at any time. -/

namespace ExQServe

variable {ε τ : Type}

namespace SetupRace

/-- Where the calling task is suspended. `leaving` is what the `try` statement is left
with, unless its `finally` raises. -/
inductive Phase (ε τ : Type)
  | waiting
  | gathering (leaving : TaskOutcome ε τ)
  | cleaning (leaving : TaskOutcome ε τ)
  | finished (result : TaskOutcome ε τ)
deriving DecidableEq, Repr

structure State (ε τ : Type) where
  resultTask : Option (TaskOutcome ε τ)
  disconnectTask : Option (TaskOutcome ε Unit)
  /-- The values `cleanup_result` was called with, and how each call ended. -/
  cleanups : List (τ × Option (TaskOutcome ε Unit))
  handedOff : Bool
  /-- The calling task was cancelled since it was suspended. -/
  cancelling : Bool
  phase : Phase ε τ
deriving DecidableEq, Repr

inductive Action (ε τ : Type)
  | resultEnds (outcome : TaskOutcome ε τ)
  | disconnectEnds (outcome : TaskOutcome ε Unit)
  | cleanupEnds (outcome : TaskOutcome ε Unit)
  | cancel
  | resume

namespace State

def afterGather (state : State ε τ) (leaving : TaskOutcome ε τ) : State ε τ :=
  match state.handedOff, state.resultTask with
  | false, some (.returned value) =>
      { state with cleanups := state.cleanups ++ [(value, none)], phase := .cleaning leaving }
  | _, _ => { state with phase := .finished leaving }

/-- The `finally` cancels what still runs and waits for it. Awaiting a gather of tasks
that have all ended does not suspend. -/
def leave (state : State ε τ) (leaving : TaskOutcome ε τ) : State ε τ :=
  if state.resultTask.isSome && state.disconnectTask.isSome then state.afterGather leaving
  else { state with phase := .gathering leaving }

/-- The calling task goes on from `asyncio.wait`. A cancellation is delivered there. -/
def afterWait (state : State ε τ) : Option (State ε τ) :=
  if state.cancelling then some ({ state with cancelling := false }.leave .cancelled)
  else if state.disconnectTask.isSome then some (state.leave .cancelled)
  else
    match state.resultTask with
    | some (.returned value) =>
        some ({ state with handedOff := true }.leave (.returned value))
    | some (.raised error) => some (state.leave (.raised error))
    | some .cancelled => some (state.leave .cancelled)
    | none => none

/-- How the loop around the shield is left once the cleanup has ended. -/
def afterCleanup (leaving : TaskOutcome ε τ) : TaskOutcome ε Unit → TaskOutcome ε τ
  | .returned _ => leaving
  | .raised error => .raised error
  | .cancelled => .cancelled

def cleanup (state : State ε τ) : Option (TaskOutcome ε Unit) :=
  state.cleanups.getLast?.bind (·.2)

def resume (state : State ε τ) : Option (State ε τ) :=
  match state.phase with
  | .waiting => state.afterWait
  | .gathering leaving =>
      if state.resultTask.isSome && state.disconnectTask.isSome then
        if state.cancelling then
          some { state with cancelling := false, phase := .finished .cancelled }
        else some (state.afterGather leaving)
      else none
  | .cleaning leaving =>
      match state.cleanup with
      | some outcome =>
          some { state with cancelling := false, phase := .finished (afterCleanup leaving outcome) }
      | none => if state.cancelling then some { state with cancelling := false } else none
  | .finished _ => none

def step (state : State ε τ) : Action ε τ → Option (State ε τ)
  | .resultEnds outcome =>
      match state.resultTask with
      | none => some { state with resultTask := some outcome }
      | some _ => none
  | .disconnectEnds outcome =>
      match state.disconnectTask with
      | none => some { state with disconnectTask := some outcome }
      | some _ => none
  | .cleanupEnds outcome =>
      match state.cleanups.getLast? with
      | some (value, none) =>
          some { state with cleanups := state.cleanups.dropLast ++ [(value, some outcome)] }
      | _ => none
  | .cancel =>
      match state.phase with
      | .finished _ => none
      | _ => some { state with cancelling := true }
  | .resume => state.resume

def initial : State ε τ :=
  { resultTask := none
    disconnectTask := none
    cleanups := []
    handedOff := false
    cancelling := false
    phase := .waiting }

end State

def machine (ε τ : Type) : Machine (State ε τ) (Action ε τ) := ⟨.initial, State.step⟩

/-- A finished race has returned the value of the setup or has cleaned it up, once and
to the end. -/
def Settled (state : State ε τ) : Prop :=
  ∀ value, state.resultTask = some (.returned value) → ∀ result, state.phase = .finished result →
    (result = .returned value ∧ state.cleanups = []) ∨
      ((∀ other, result ≠ .returned other) ∧ ∃ outcome, state.cleanups = [(value, some outcome)])

def Exclusive (state : State ε τ) : Prop :=
  ∀ value, state.phase = .finished (.returned value) → state.cleanups = []

/-- Only an unfinished task keeps the race from going on. -/
def Alive (state : State ε τ) : Prop :=
  (∃ result, state.phase = .finished result) ∨ state.resume.isSome ∨
    state.resultTask = none ∨ state.disconnectTask = none ∨
    ∃ value, state.cleanups.getLast? = some (value, none)

def Produced (state : State ε τ) : Prop := ∃ value, state.resultTask = some (.returned value)

/-- A cancellation arrives while the calling task waits for the gather of the `finally`. -/
def CancelsGather (actions : List (Action ε τ)) : Prop :=
  (machine ε τ).Passes
    (fun state action => (∃ leaving, state.phase = .gathering leaving) ∧ action = .cancel) actions

def ArrivesFirst (actions : List (Action ε τ)) : Prop :=
  (machine ε τ).Passes
    (fun state action => state.phase = .waiting ∧ state.disconnectTask.isSome ∧ action = .resume)
    actions

end SetupRace
end ExQServe
