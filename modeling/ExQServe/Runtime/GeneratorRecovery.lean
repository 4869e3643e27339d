import ExQServe.Core.Errors
import ExQServe.Foundation.Machines

/-! # The generator of a loaded runtime

The model of the generator lifecycle in `runtime/exllamav3.py`, from `load` to `close`.
Between two awaits the event loop runs one step. A generator and its failure episode are
made together and are known by their numbers; what the backend answers comes with the
step. A close call may begin whenever the runtime is between two steps. -/

namespace ExQServe.Runtime

inductive GeneratorLifecycleState
  | ready
  | recovering
  | failed
deriving DecidableEq, Repr

/-- What of the loaded resources the lifecycle reads; `serial` is their identity. -/
structure Resources where
  serial : Nat
  sysmemKvCacheMb : Nat
  maxContextTokens : Option Nat
deriving DecidableEq

/-- What can be seen of a backend generator. `observable` says that its iteration task
takes callbacks. -/
structure BackendGenerator where
  error : Bool
  iterationDone : Bool
  observable : Bool
deriving DecidableEq

structure Owned where
  generator : Nat
  episode : Nat
deriving DecidableEq

inductive RecoveryPlace
  | created
  | quiescing
  | quiescingDead (replacement : Nat)
  | quiescingTeardown (replacement : Nat)
  | ended (failed : Bool)
deriving DecidableEq

structure RecoveryTask where
  failed : Owned
  resources : Resources
  place : RecoveryPlace
deriving DecidableEq

def moveTask (tasks : List RecoveryTask) (number : Nat) (place : RecoveryPlace) :
    List RecoveryTask :=
  tasks.modify number fun found => { found with place }

inductive ClosePlace
  | awaitingRecovery (task : Nat)
  | quiescingQuarantined (resources : Resources) (generator : Nat)
  | quiescingPoisoned (generator : Nat)
  | closingGenerator (generator : Nat)
  | ended (failure : Option String)
deriving DecidableEq

inductive GeneratorEvent
  | constructed (generator : Nat)
  /-- The generator was closed and its queue cleared. -/
  | quiesced (generator : Nat)
deriving DecidableEq

inductive SubmitFailure
  | runtimeError (message : String)
  | unavailable (error : CanonicalError)
  /-- The backend raised. -/
  | backend

structure ExLlamaV3Runtime where
  resources : Option Resources
  closing : Bool
  generator : Option Nat
  generatorEpisode : Option Nat
  generatorState : GeneratorLifecycleState
  quarantinedGenerator : Option Nat
  quarantinedEpisode : Option Nat
  recoveryTask : Option Nat
  /-- The task that holds `_generator_lifecycle_lock`. -/
  lifecycleLock : Option Nat
  observedGenerator : Option Nat
  /-- The generators and the causes of the episodes made so far. -/
  generators : List BackendGenerator
  episodes : List (Option FailureCause)
  /-- The callbacks that wait for an iteration task to be done. -/
  observers : List Owned
  tasks : List RecoveryTask
  closers : List ClosePlace
  sessions : List Owned
  /-- The causes that failed sessions were given. -/
  reports : List (Owned × Option FailureCause)
  log : List GeneratorEvent

def runtimeRecovering : CanonicalError where
  category := .overloaded
  code := py "runtime_recovering"
  message := py "Inference runtime is recovering from a backend generation failure."
  retryable := true
  cause := some .runtimeRecovering
  codeNonBlank := by decide

def restartRequired : CanonicalError where
  category := .runtimeFailure
  code := py "restart_required"
  message := py "Inference runtime requires a server restart before accepting more requests."
  retryable := false
  cause := some .restartRequired
  codeNonBlank := by decide

theorem contextLimitExceeded_code : Model.NonBlank (py "total_context_limit_exceeded") := by decide

def contextLimitExceeded : CanonicalError where
  category := .contextLength
  code := py "total_context_limit_exceeded"
  message := py "Total requested context limit exceeded."
  retryable := false
  cause := none
  codeNonBlank := contextLimitExceeded_code

/-- `_runtime_unavailable`; other causes are a `ValueError`. -/
def runtimeUnavailable : FailureCause → SubmitFailure
  | .runtimeRecovering => .unavailable ExQServe.Runtime.runtimeRecovering
  | .restartRequired => .unavailable ExQServe.Runtime.restartRequired
  | _ => .runtimeError "unsupported runtime-unavailable cause"

namespace ExLlamaV3Runtime

def cause (runtime : ExLlamaV3Runtime) (episode : Nat) : Option FailureCause :=
  (runtime.episodes[episode]?).join

def markRecovering (runtime : ExLlamaV3Runtime) (episode : Nat) : ExLlamaV3Runtime :=
  if runtime.cause episode = none then
    { runtime with episodes := runtime.episodes.set episode (some .runtimeRecovering) }
  else runtime

def markRestartRequired (runtime : ExLlamaV3Runtime) (episode : Nat) : ExLlamaV3Runtime :=
  { runtime with episodes := runtime.episodes.set episode (some .restartRequired) }

def errorOf (runtime : ExLlamaV3Runtime) (generator : Nat) : Bool :=
  (runtime.generators[generator]?.map (·.error)).getD false

def generatorIsKnownDead (runtime : ExLlamaV3Runtime) (generator : Nat) : Bool :=
  (runtime.generators[generator]?.map fun found => found.error || found.iterationDone).getD false

def quarantine (runtime : ExLlamaV3Runtime) (owned : Owned) : ExLlamaV3Runtime :=
  { runtime with
    generator := none
    generatorEpisode := none
    quarantinedGenerator := some owned.generator
    quarantinedEpisode := some owned.episode }

/-- `_begin_generator_recovery`; `loop` says that an event loop is running. -/
def beginGeneratorRecovery (runtime : ExLlamaV3Runtime) (failed : Owned)
    (allowUnstoredError loop : Bool) : ExLlamaV3Runtime :=
  match runtime.resources with
  | none => runtime
  | some resources =>
      if runtime.closing then runtime
      else if runtime.generator ≠ some failed.generator then runtime
      else if runtime.generatorEpisode ≠ some failed.episode then runtime
      else if runtime.generatorState ≠ .ready then runtime
      else if !allowUnstoredError && !runtime.errorOf failed.generator then runtime
      else
        let runtime := { (runtime.markRecovering failed.episode).quarantine failed with
          generatorState := .recovering }
        if loop then
          { runtime with
            tasks := runtime.tasks ++ [⟨failed, resources, .created⟩]
            recoveryTask := some runtime.tasks.length }
        else { runtime.markRestartRequired failed.episode with generatorState := .failed }

def ownsCurrent (runtime : ExLlamaV3Runtime) (owned : Owned) : Bool :=
  runtime.generator = some owned.generator ∧ runtime.generatorEpisode = some owned.episode

def ownsQuarantine (runtime : ExLlamaV3Runtime) (owned : Owned) : Bool :=
  runtime.quarantinedGenerator = some owned.generator ∧
    runtime.quarantinedEpisode = some owned.episode

/-- A system-memory K/V cache cannot be replaced: its generator fails for good. -/
def failCurrent (runtime : ExLlamaV3Runtime) (owned : Owned) : ExLlamaV3Runtime :=
  if runtime.ownsCurrent owned ∧ runtime.generatorState = .ready then
    { (runtime.markRestartRequired owned.episode).quarantine owned with generatorState := .failed }
  else runtime

/-- The part of `_project_backend_failure` for a system-memory K/V cache. -/
def failSysmem (runtime : ExLlamaV3Runtime) (owned : Owned) : ExLlamaV3Runtime :=
  let runtime := runtime.failCurrent owned
  if runtime.quarantinedGenerator = some owned.generator then
    { runtime.markRestartRequired owned.episode with generatorState := .failed }
  else runtime

def recoverCurrent (runtime : ExLlamaV3Runtime) (owned : Owned)
    (allowUnstoredError loop : Bool) : ExLlamaV3Runtime :=
  if runtime.ownsCurrent owned ∧ runtime.generatorState = .ready then
    runtime.beginGeneratorRecovery owned allowUnstoredError loop
  else runtime

/-- The other part of `_project_backend_failure`. -/
def failRecoverable (runtime : ExLlamaV3Runtime) (owned : Owned)
    (allowUnstoredError loop : Bool) : ExLlamaV3Runtime :=
  let runtime := runtime.recoverCurrent owned allowUnstoredError loop
  if runtime.generatorState = .failed then runtime.markRestartRequired owned.episode else runtime

/-- `_project_backend_failure`. Every caller passes the episode. The cause that is
returned is the one the episode has afterwards. -/
def projectBackendFailure (runtime : ExLlamaV3Runtime) (owned : Owned)
    (allowUnstoredError loop : Bool) : ExLlamaV3Runtime :=
  if (runtime.cause owned.episode).isSome then runtime
  else
    match runtime.resources with
    | none => runtime
    | some resources =>
        if runtime.closing then runtime
        else if !runtime.ownsCurrent owned && !runtime.ownsQuarantine owned then runtime
        else if 0 < resources.sysmemKvCacheMb then runtime.failSysmem owned
        else runtime.failRecoverable owned allowUnstoredError loop

def registerGeneratorObserver (runtime : ExLlamaV3Runtime) (owned : Owned) : ExLlamaV3Runtime :=
  if runtime.observedGenerator = some owned.generator then runtime
  else if (runtime.generators[owned.generator]?.map (·.observable)).getD false then
    { runtime with
      observedGenerator := some owned.generator
      observers := runtime.observers ++ [owned] }
  else runtime

def onGeneratorIterationDone (runtime : ExLlamaV3Runtime) (owned : Owned) : ExLlamaV3Runtime :=
  if runtime.closing || runtime.resources.isNone || !runtime.ownsCurrent owned then runtime
  else runtime.projectBackendFailure owned (!runtime.errorOf owned.generator) true

def construct (runtime : ExLlamaV3Runtime) (made : BackendGenerator) : ExLlamaV3Runtime :=
  { runtime with
    generators := runtime.generators ++ [made]
    generator := some runtime.generators.length
    episodes := runtime.episodes ++ [none]
    generatorEpisode := some runtime.episodes.length
    log := runtime.log ++ [.constructed runtime.generators.length] }

/-- `_ensure_generator`, with the generator that the backend makes, if it makes one. -/
def ensureGenerator (runtime : ExLlamaV3Runtime) (made : Option BackendGenerator) (loop : Bool) :
    Except SubmitFailure Nat × ExLlamaV3Runtime :=
  match runtime.generator with
  | some generator =>
      match runtime.generatorEpisode with
      | none =>
          (.error (.runtimeError "ExLlamaV3 generator failure episode is unavailable"), runtime)
      | some episode =>
          if runtime.errorOf generator then
            let runtime := runtime.projectBackendFailure ⟨generator, episode⟩ false loop
            (.error (runtimeUnavailable ((runtime.cause episode).getD .restartRequired)), runtime)
          else (.ok generator, runtime)
  | none =>
      if runtime.resources.isNone then
        (.error (.runtimeError "ExLlamaV3 runtime is not ready"), runtime)
      else if !loop then
        (.error (.runtimeError "ExLlamaV3 submit requires a running event loop"), runtime)
      else
        match made with
        | none => (.error .backend, runtime)
        | some made => (.ok runtime.generators.length, runtime.construct made)

structure Submission where
  inputTokens : Nat
  maxNewTokens : Nat
  made : Option BackendGenerator
  loop : Bool
  /-- The job was built. -/
  job : Bool

/-- `submit` after the checks on the state and the request. -/
def handOut (runtime : ExLlamaV3Runtime) (submission : Submission) :
    Except SubmitFailure Owned × ExLlamaV3Runtime :=
  match runtime.ensureGenerator submission.made submission.loop with
  | (.error failure, runtime) => (.error failure, runtime)
  | (.ok generator, runtime) =>
      match runtime.generatorEpisode with
      | none =>
          (.error (.runtimeError "ExLlamaV3 generator failure episode is unavailable"), runtime)
      | some episode =>
          let owned : Owned := ⟨generator, episode⟩
          let runtime := runtime.registerGeneratorObserver owned
          if runtime.generatorIsKnownDead generator then
            let runtime := runtime.projectBackendFailure owned true submission.loop
            (.error (runtimeUnavailable ((runtime.cause episode).getD .restartRequired)), runtime)
          else if submission.job then
            (.ok owned, { runtime with sessions := runtime.sessions ++ [owned] })
          else (.error .backend, runtime)

def submit (runtime : ExLlamaV3Runtime) (submission : Submission) :
    Except SubmitFailure Owned × ExLlamaV3Runtime :=
  match runtime.resources with
  | none => (.error (.runtimeError "ExLlamaV3 runtime is not ready"), runtime)
  | some resources =>
      if runtime.closing then
        (.error (.runtimeError "ExLlamaV3 runtime is closing"), runtime)
      else
        match runtime.generatorState with
        | .recovering => (.error (runtimeUnavailable .runtimeRecovering), runtime)
        | .failed => (.error (runtimeUnavailable .restartRequired), runtime)
        | .ready =>
            match resources.maxContextTokens with
            | none =>
                (.error (.runtimeError "ExLlamaV3 runtime context capacity is unavailable"),
                  runtime)
            | some maxContext =>
                if maxContext < submission.inputTokens + submission.maxNewTokens then
                  (.error (.unavailable contextLimitExceeded), runtime)
                else runtime.handOut submission

/-! ## Recovery -/

def setTask (runtime : ExLlamaV3Runtime) (task : Nat) (place : RecoveryPlace) : ExLlamaV3Runtime :=
  { runtime with tasks := moveTask runtime.tasks task place }

def endRecovery (runtime : ExLlamaV3Runtime) (task : Nat) (failed : Bool) : ExLlamaV3Runtime :=
  { runtime.setTask task (.ended failed) with
    lifecycleLock := none
    recoveryTask := if runtime.recoveryTask = some task then none else runtime.recoveryTask }

def failRecovery (runtime : ExLlamaV3Runtime) (task : Nat) (failed : Owned) : ExLlamaV3Runtime :=
  { runtime.markRestartRequired failed.episode with
    generatorState := .failed }.endRecovery task true

def clearQuarantine (runtime : ExLlamaV3Runtime) : ExLlamaV3Runtime :=
  { runtime with quarantinedGenerator := none, quarantinedEpisode := none }

def quiesced (runtime : ExLlamaV3Runtime) (generator : Nat) : ExLlamaV3Runtime :=
  { runtime with log := runtime.log ++ [.quiesced generator] }

def adoptReplacement (runtime : ExLlamaV3Runtime) (task : Nat) (recovery : RecoveryTask)
    (replacement : Owned) : ExLlamaV3Runtime :=
  let runtime := runtime.registerGeneratorObserver replacement
  if runtime.generatorIsKnownDead replacement.generator then
    ((runtime.markRestartRequired recovery.failed.episode).quarantine replacement).setTask task
      (.quiescingDead replacement.generator)
  else if runtime.closing ∨ runtime.resources ≠ some recovery.resources then
    (runtime.quarantine replacement).setTask task (.quiescingTeardown replacement.generator)
  else { runtime with generatorState := .ready }.endRecovery task false

def replaceGenerator (runtime : ExLlamaV3Runtime) (task : Nat) (recovery : RecoveryTask)
    (made : Option BackendGenerator) : ExLlamaV3Runtime :=
  if 0 < recovery.resources.sysmemKvCacheMb then runtime.failRecovery task recovery.failed
  else
    let runtime := runtime.clearQuarantine
    if runtime.closing ∨ runtime.resources ≠ some recovery.resources then
      runtime.endRecovery task false
    else
      match runtime.ensureGenerator made true with
      | (.error _, runtime) => runtime.failRecovery task recovery.failed
      | (.ok replacement, runtime) =>
          match runtime.generatorEpisode with
          | none => runtime.failRecovery task recovery.failed
          | some episode => runtime.adoptReplacement task recovery ⟨replacement, episode⟩

/-- The recovery task runs to its next await. `cleaned` answers the
`_quiesce_and_clear_generator` it waits for. -/
def recover (runtime : ExLlamaV3Runtime) (task : Nat) (cleaned : Bool)
    (made : Option BackendGenerator) : Option ExLlamaV3Runtime :=
  match runtime.tasks[task]? with
  | none => none
  | some recovery =>
      match recovery.place with
      | .created =>
          if runtime.lifecycleLock.isSome then none
          else
            let runtime := { runtime with lifecycleLock := some task }
            if runtime.ownsQuarantine recovery.failed then some (runtime.setTask task .quiescing)
            else some (runtime.endRecovery task false)
      | .quiescing =>
          if cleaned then
            some ((runtime.quiesced recovery.failed.generator).replaceGenerator task recovery made)
          else some (runtime.failRecovery task recovery.failed)
      | .quiescingDead replacement =>
          let runtime := if cleaned then (runtime.quiesced replacement).clearQuarantine else runtime
          some ({ runtime with generatorState := .failed }.endRecovery task true)
      | .quiescingTeardown replacement =>
          let runtime := if cleaned then (runtime.quiesced replacement).clearQuarantine else runtime
          some (runtime.endRecovery task false)
      | .ended _ => none

/-! ## Close -/

def setCloser (runtime : ExLlamaV3Runtime) (closer : Nat) (place : ClosePlace) :
    ExLlamaV3Runtime :=
  { runtime with closers := runtime.closers.set closer place }

/-- The end of `close`, after the generator. Whatever fails to unload is only raised. -/
def unload (runtime : ExLlamaV3Runtime) (closer : Nat) (failed : Bool) : ExLlamaV3Runtime :=
  { runtime with
    resources := none
    generator := none
    generatorEpisode := none
    quarantinedGenerator := none
    quarantinedEpisode := none
    recoveryTask := none
    observedGenerator := none
    generatorState := .ready }.setCloser closer
      (.ended (if failed then some "Failed to close ExLlamaV3 runtime cleanly." else none))

def closeCurrent (runtime : ExLlamaV3Runtime) (closer : Nat) (unloadFails : Bool) :
    ExLlamaV3Runtime :=
  match runtime.generator with
  | none => runtime.unload closer unloadFails
  | some generator =>
      runtime.setCloser closer
        (if runtime.errorOf generator then .quiescingPoisoned generator
          else .closingGenerator generator)

def closeOwned (runtime : ExLlamaV3Runtime) (closer : Nat) (unloadFails : Bool) :
    ExLlamaV3Runtime :=
  match runtime.resources with
  | none => runtime.setCloser closer (.ended none)
  | some resources =>
      match runtime.quarantinedGenerator with
      | some generator => runtime.setCloser closer (.quiescingQuarantined resources generator)
      | none => runtime.closeCurrent closer unloadFails

def taskEnded (runtime : ExLlamaV3Runtime) (task : Nat) : Bool :=
  match runtime.tasks[task]? with
  | some ⟨_, _, .ended _⟩ => true
  | _ => false

def close (runtime : ExLlamaV3Runtime) (unloadFails : Bool) : ExLlamaV3Runtime :=
  if runtime.resources.isNone then runtime
  else
    let closer := runtime.closers.length
    match runtime.recoveryTask with
    | some task =>
        if runtime.taskEnded task then
          { runtime with
            closing := true, closers := runtime.closers ++ [ClosePlace.ended none] }.closeOwned
            closer unloadFails
        else
          { runtime with
            closing := true
            closers := runtime.closers ++ [.awaitingRecovery task] }
    | none =>
        { runtime with
          closing := true, closers := runtime.closers ++ [ClosePlace.ended none] }.closeOwned
          closer unloadFails

/-- A close call runs to its next await. `cleaned` answers what it waits for. -/
def resumeClose (runtime : ExLlamaV3Runtime) (closer : Nat) (cleaned unloadFails : Bool) :
    Option ExLlamaV3Runtime :=
  match runtime.closers[closer]? with
  | some (.awaitingRecovery task) =>
      if runtime.taskEnded task then some (runtime.closeOwned closer unloadFails) else none
  | some (.quiescingQuarantined resources generator) =>
      if !cleaned then
        some ({ runtime with generatorState := .failed }.setCloser closer
          (.ended (some "Failed to clean quarantined ExLlamaV3 generator safely.")))
      else
        let runtime := runtime.quiesced generator
        if 0 < resources.sysmemKvCacheMb then
          some (runtime.setCloser closer (.ended (some
            ("ExLlamaV3 sysmem-KV generator ownership cannot be reset safely in-process; " ++
              "restart the server process."))))
        else some (runtime.clearQuarantine.closeCurrent closer unloadFails)
  | some (.quiescingPoisoned generator) =>
      if cleaned then some ((runtime.quiesced generator).unload closer unloadFails)
      else
        some ({ runtime with
          generator := none
          quarantinedGenerator := some generator
          quarantinedEpisode := runtime.generatorEpisode
          generatorEpisode := none
          generatorState := .failed }.setCloser closer
            (.ended (some "Failed to clean poisoned ExLlamaV3 generator safely.")))
  | some (.closingGenerator _) => some (runtime.unload closer (!cleaned || unloadFails))
  | _ => none

/-! ## Steps -/

inductive Action
  | submit (submission : Submission)
  /-- The iteration of a generator fails, with or without a stored error. -/
  | generatorFails (generator : Nat) (error iterationDone : Bool)
  /-- A done callback runs. -/
  | iterationDone (observer : Nat)
  /-- A failed session asks for its cause. -/
  | project (session : Nat) (loop : Bool)
  | recover (task : Nat) (cleaned : Bool) (made : Option BackendGenerator)
  | close (unloadFails : Bool)
  | resumeClose (closer : Nat) (cleaned unloadFails : Bool)

def step (runtime : ExLlamaV3Runtime) : Action → Option ExLlamaV3Runtime
  | .submit submission => some (runtime.submit submission).2
  | .generatorFails generator error iterationDone =>
      some { runtime with
        generators := runtime.generators.modify generator fun found =>
          { found with
            error := found.error || error
            iterationDone := found.iterationDone || iterationDone } }
  | .iterationDone observer =>
      match runtime.observers[observer]? with
      | none => none
      | some owned =>
          if (runtime.generators[owned.generator]?.map (·.iterationDone)).getD false then
            some ({ runtime with observers := runtime.observers.eraseIdx observer
              }.onGeneratorIterationDone owned)
          else none
  | .project session loop =>
      match runtime.sessions[session]? with
      | none => none
      | some owned =>
          let runtime := runtime.projectBackendFailure owned true loop
          some { runtime with
            reports := runtime.reports ++ [(owned, runtime.cause owned.episode)] }
  | .recover task cleaned made => runtime.recover task cleaned made
  | .close unloadFails => some (runtime.close unloadFails)
  | .resumeClose closer cleaned unloadFails => runtime.resumeClose closer cleaned unloadFails

def loaded (resources : Resources) : ExLlamaV3Runtime :=
  { resources := some resources
    closing := false
    generator := none
    generatorEpisode := none
    generatorState := .ready
    quarantinedGenerator := none
    quarantinedEpisode := none
    recoveryTask := none
    lifecycleLock := none
    observedGenerator := none
    generators := []
    episodes := []
    observers := []
    tasks := []
    closers := []
    sessions := []
    reports := []
    log := [] }

def machine (resources : Resources) : Machine ExLlamaV3Runtime Action :=
  ⟨loaded resources, step⟩

end ExLlamaV3Runtime
end ExQServe.Runtime
