import ExQServe.Control.Request
import ExQServe.Foundation.Machines

/-! # The model manager

The model of `server/model_manager.py`. `_lock` is never held across an await, so every
section under it belongs to the step that enters it. A transition holds `_transition_lock`
from its first step to its last; between two awaits it is one step. The builder, the
controller and the runtime answer as they like. A bundle is known by its number: the
builder makes a new one each time. -/

namespace ExQServe.Server

open ExQServe.Control

structure ActiveModelBundle where
  serial : Nat
  managementId : PyStr
  servedModel : PyStr
  /-- The bundle has a preprocessing to close. -/
  preprocessing : Bool
deriving DecidableEq

inductive ModelManagerState
  | ready
  | loading
  | switching
  | unloading
  | unloaded
  | error
  | closed
deriving DecidableEq

structure ModelManagerSnapshot where
  state : ModelManagerState
  currentModel : Option PyStr
  servedModel : Option PyStr
  candidates : List PyStr
deriving DecidableEq

inductive ManagerFailure (ε : Type)
  | keyError (modelId : PyStr)
  | runtimeError (message : String)
  /-- `_not_ready()` -/
  | notReady
  | raised (error : ε)
  /-- `asyncio.CancelledError` -/
  | cancelled
deriving DecidableEq

def loadBlocked : String :=
  "model load is blocked while prior runtime ownership is unresolved"

def loadRequiresUnloaded : String := "model load requires an unloaded manager"

def switchRequiresReady : String := "model switch requires a ready manager"

def unloadRequiresReady : String := "model unload requires a ready manager"

def leaseCountNegative : String := "submission lease count became negative"

variable {ε π : Type}

structure ModelManager (π : Type) where
  candidates : List (PyStr × π)
  bundle : Option ActiveModelBundle
  lastRuntime : ActiveModelBundle
  lastController : ActiveModelBundle
  state : ModelManagerState
  activeSubmissions : Int
  submissionsQuiesced : Bool

namespace ModelManager

def snapshot (manager : ModelManager π) : ModelManagerSnapshot :=
  { state := manager.state
    currentModel := manager.bundle.map (·.managementId)
    servedModel := manager.bundle.map (·.servedModel)
    candidates := manager.candidates.map (·.1) }

def candidate (manager : ModelManager π) (modelId : PyStr) : Except (ManagerFailure ε) π :=
  if modelId.strip = [] then .error (.keyError modelId)
  else
    match manager.candidates.find? (·.1 = modelId) with
    | some (_, path) => .ok path
    | none => .error (.keyError modelId)

def acquireSubmissionBundle (manager : ModelManager π) :
    Except (ManagerFailure ε) (ActiveModelBundle × ModelManager π) :=
  match manager.state, manager.bundle with
  | .ready, some bundle =>
      let active := manager.activeSubmissions + 1
      .ok (bundle,
        { manager with
          activeSubmissions := active
          submissionsQuiesced := if active = 1 then false else manager.submissionsQuiesced })
  | _, _ => .error .notReady

def releaseSubmissionBundle (manager : ModelManager π) :
    Except (ManagerFailure ε) Unit × ModelManager π :=
  let active := manager.activeSubmissions - 1
  if active < 0 then
    (.error (.runtimeError leaseCountNegative), { manager with activeSubmissions := active })
  else
    (.ok (),
      { manager with
        activeSubmissions := active
        submissionsQuiesced := if active = 0 then true else manager.submissionsQuiesced })

def publish (manager : ModelManager π) (bundle : ActiveModelBundle) : ModelManager π :=
  { manager with
    bundle := some bundle
    lastRuntime := bundle
    lastController := bundle
    state := .ready }

def beginLoad (manager : ModelManager π) : Except (ManagerFailure ε) (ModelManager π) :=
  if manager.state = .error ∧ manager.bundle.isSome then .error (.runtimeError loadBlocked)
  else if manager.state = .unloaded ∨ manager.state = .error then
    .ok { manager with state := .loading, bundle := none }
  else .error (.runtimeError loadRequiresUnloaded)

end ModelManager

inductive Teardown (π : Type)
  | switch (modelId : PyStr) (path : π)
  | unload
  | close

def Teardown.reason : Teardown π → RequestTerminalReason
  | .switch _ _ => .modelSwitch
  | _ => .serverShutdown

/-- The calls that take `_transition_lock`, after the candidate was looked up. -/
inductive TransitionCall (π : Type)
  | load (modelId : PyStr) (path : π)
  | teardown (call : Teardown π)

/-- Where `_close_bundle` is suspended. `woken` says that the event was set since it
began to wait. -/
inductive Closing
  | controller (reason : RequestTerminalReason)
  | submissions (woken : Bool)
  | runtime
deriving DecidableEq

inductive Transition (ε π : Type)
  | building (call : TransitionCall π) (modelId : PyStr) (path : π)
  | closing (call : Teardown π) (bundle : ActiveModelBundle)
      (controllerError : Option (ManagerFailure ε)) (place : Closing)

inductive SubmissionMethod
  | countInputTokens
  | submit
  | submitRaw
deriving DecidableEq

/-- A submission between `_acquire_submission_bundle` and `_release_submission_bundle`. -/
structure Lease where
  method : SubmissionMethod
  bundle : ActiveModelBundle
deriving DecidableEq

inductive RuntimeClose
  | untouched
  | running
  | failed
  | returned
deriving DecidableEq

structure Parts where
  preprocessingClosed : Bool
  runtime : RuntimeClose
deriving DecidableEq

def Parts.untouched : Parts := ⟨false, .untouched⟩

inductive Answer (ε : Type)
  | submission (method : SubmissionMethod) (failure : ManagerFailure ε)
  | transition (result : Except (ManagerFailure ε) (Option ModelManagerSnapshot))

structure World (ε π : Type) where
  manager : ModelManager π
  /-- The holder of `_transition_lock`. -/
  transition : Option (Transition ε π)
  waiting : List (TransitionCall π)
  leases : List Lease
  /-- The bundles that were published so far. -/
  published : List ActiveModelBundle
  parts : Nat → Parts
  answers : List (Answer ε)

inductive Request
  | load (modelId : PyStr)
  | switch (modelId : PyStr)
  | unload
  | close

/-- What the builder makes; the world numbers it. -/
structure BuiltBundle where
  managementId : PyStr
  servedModel : PyStr
  preprocessing : Bool

def BuiltBundle.number (built : BuiltBundle) (serial : Nat) : ActiveModelBundle :=
  { serial
    managementId := built.managementId
    servedModel := built.servedModel
    preprocessing := built.preprocessing }

inductive WorldAction (ε : Type)
  | request (request : Request)
  | cancelWaiting (position : Nat)
  | enter (position : Nat)
  | controllerCloses (outcome : TaskOutcome ε Unit) (preprocessing : Except ε Unit)
  | submissionsQuiesced (preprocessing : Except ε Unit)
  | cancelQuiescence
  | runtimeCloses (outcome : TaskOutcome ε Unit)
  | builderEnds (outcome : TaskOutcome ε BuiltBundle)
  | submission (method : SubmissionMethod)
  | submissionEnds (position : Nat)

def failureOf {τ : Type} : TaskOutcome ε τ → Option (ManagerFailure ε)
  | .returned _ => none
  | .raised error => some (.raised error)
  | .cancelled => some .cancelled

namespace World

def answer (world : World ε π) (answer : Answer ε) : World ε π :=
  { world with answers := world.answers ++ [answer] }

def finish (world : World ε π) (manager : ModelManager π)
    (result : Except (ManagerFailure ε) (Option ModelManagerSnapshot)) : World ε π :=
  { world with manager, transition := none }.answer (.transition result)

def bundleClosed (world : World ε π) : Teardown π → World ε π
  | .switch modelId path =>
      { world with
        manager := { world.manager with bundle := none }
        transition := some (.building (.teardown (.switch modelId path)) modelId path) }
  | .unload =>
      let manager := { world.manager with bundle := none, state := .unloaded }
      world.finish manager (.ok (some manager.snapshot))
  | .close => world.finish world.manager (.ok none)

/-- `_close_bundle` raised the error of the controller, after the runtime was closed. -/
def controllerFailed (world : World ε π) (failure : ManagerFailure ε) : Teardown π → World ε π
  | .close => world.finish world.manager (.error failure)
  | _ => world.finish { world.manager with bundle := none, state := .error } (.error failure)

/-- `_close_bundle` raised `_RuntimeOwnershipUnresolved`. -/
def ownershipUnresolved (world : World ε π) (bundle : ActiveModelBundle)
    (cause : ManagerFailure ε) : Teardown π → World ε π
  | .close => world.finish { world.manager with bundle := some bundle } (.error cause)
  | _ => world.finish { world.manager with state := .error } (.error cause)

def setParts (world : World ε π) (bundle : ActiveModelBundle) (parts : Parts) : World ε π :=
  { world with parts := Function.update world.parts bundle.serial parts }

def closeParts (world : World ε π) (call : Teardown π) (bundle : ActiveModelBundle)
    (controllerError : Option (ManagerFailure ε)) (preprocessing : Except ε Unit) : World ε π :=
  let before := world.parts bundle.serial
  let closed := before.preprocessingClosed || bundle.preprocessing
  match bundle.preprocessing, preprocessing with
  | true, .error error =>
      (world.setParts bundle { before with preprocessingClosed := closed }).ownershipUnresolved
        bundle (.raised error) call
  | _, _ =>
      { world.setParts bundle { preprocessingClosed := closed, runtime := .running } with
        transition := some (.closing call bundle controllerError .runtime) }

def beginClosing (world : World ε π) (manager : ModelManager π) (call : Teardown π)
    (bundle : ActiveModelBundle) : World ε π :=
  { world with
    manager
    transition := some (.closing call bundle none (.controller call.reason)) }

def enter (world : World ε π) : TransitionCall π → World ε π
  | .load modelId path =>
      match world.manager.beginLoad with
      | .ok manager =>
          { world with
            manager
            transition := some (.building (.load modelId path) modelId path) }
      | .error failure => world.finish world.manager (.error failure)
  | .teardown (.switch modelId path) =>
      match world.manager.state, world.manager.bundle with
      | .ready, some bundle =>
          if bundle.managementId = modelId then
            world.finish world.manager (.ok (some world.manager.snapshot))
          else
            world.beginClosing { world.manager with state := .switching } (.switch modelId path)
              bundle
      | _, _ => world.finish world.manager (.error (.runtimeError switchRequiresReady))
  | .teardown .unload =>
      match world.manager.state, world.manager.bundle with
      | .unloaded, _ => world.finish world.manager (.ok (some world.manager.snapshot))
      | .ready, some bundle =>
          world.beginClosing { world.manager with state := .unloading } .unload bundle
      | _, _ => world.finish world.manager (.error (.runtimeError unloadRequiresReady))
  | .teardown .close =>
      match world.manager.state, world.manager.bundle with
      | .closed, _ => world.finish world.manager (.ok none)
      | _, some bundle =>
          world.beginClosing { world.manager with state := .closed, bundle := none } .close bundle
      | _, none => world.finish { world.manager with state := .closed, bundle := none } (.ok none)

def request (world : World ε π) : Request → World ε π
  | .load modelId => withCandidate modelId fun path => .load modelId path
  | .switch modelId => withCandidate modelId fun path => .teardown (.switch modelId path)
  | .unload => { world with waiting := world.waiting ++ [.teardown .unload] }
  | .close => { world with waiting := world.waiting ++ [.teardown .close] }
where
  withCandidate (modelId : PyStr) (call : π → TransitionCall π) : World ε π :=
    match world.manager.candidate modelId with
    | .ok path => { world with waiting := world.waiting ++ [call path] }
    | .error failure => world.answer (.transition (.error failure))

def builderFailed (world : World ε π) (failure : ManagerFailure ε) : World ε π :=
  world.finish { world.manager with bundle := none, state := .error } (.error failure)

def wake : Option (Transition ε π) → Option (Transition ε π)
  | some (.closing call bundle controllerError (.submissions _)) =>
      some (.closing call bundle controllerError (.submissions true))
  | transition => transition

def step (world : World ε π) : WorldAction ε → Option (World ε π)
  | .request request => some (world.request request)
  | .cancelWaiting position =>
      match world.waiting[position]? with
      | some _ =>
          some ({ world with waiting := world.waiting.eraseIdx position }.answer
            (.transition (.error .cancelled)))
      | none => none
  | .enter position =>
      match world.transition, world.waiting[position]? with
      | none, some call =>
          some ({ world with waiting := world.waiting.eraseIdx position }.enter call)
      | _, _ => none
  | .controllerCloses outcome preprocessing =>
      match world.transition with
      | some (.closing call bundle _ (.controller _)) =>
          if world.manager.submissionsQuiesced then
            some (world.closeParts call bundle (failureOf outcome) preprocessing)
          else
            some { world with
              transition := some (.closing call bundle (failureOf outcome) (.submissions false)) }
      | _ => none
  | .submissionsQuiesced preprocessing =>
      match world.transition with
      | some (.closing call bundle controllerError (.submissions true)) =>
          some (world.closeParts call bundle controllerError preprocessing)
      | _ => none
  | .cancelQuiescence =>
      match world.transition with
      | some (.closing call bundle _ (.submissions _)) =>
          some (world.ownershipUnresolved bundle .cancelled call)
      | _ => none
  | .runtimeCloses outcome =>
      match world.transition with
      | some (.closing call bundle controllerError .runtime) =>
          let before := world.parts bundle.serial
          match failureOf outcome with
          | some cause =>
              some ((world.setParts bundle { before with runtime := .failed }).ownershipUnresolved
                bundle cause call)
          | none =>
              let world := world.setParts bundle { before with runtime := .returned }
              match controllerError with
              | some failure => some (world.controllerFailed failure call)
              | none => some (world.bundleClosed call)
      | _ => none
  | .builderEnds outcome =>
      match world.transition, outcome with
      | some (.building _ _ _), .returned built =>
          let bundle := built.number world.published.length
          let manager := world.manager.publish bundle
          some ({ world with
            published := world.published ++ [bundle]
            parts := Function.update world.parts bundle.serial .untouched }.finish manager
              (.ok (some manager.snapshot)))
      | some (.building _ _ _), .raised error => some (world.builderFailed (.raised error))
      | some (.building _ _ _), .cancelled => some (world.builderFailed .cancelled)
      | _, _ => none
  | .submission method =>
      match world.manager.acquireSubmissionBundle with
      | .ok (bundle, manager) =>
          some { world with manager, leases := world.leases ++ [⟨method, bundle⟩] }
      | .error failure => some (world.answer (.submission method failure))
  | .submissionEnds position =>
      match world.leases[position]? with
      | some lease =>
          match world.manager.releaseSubmissionBundle with
          | (.ok _, manager) =>
              some { world with
                manager
                leases := world.leases.eraseIdx position
                transition :=
                  if manager.activeSubmissions = 0 then wake world.transition
                  else world.transition }
          | (.error failure, manager) =>
              some ({ world with manager, leases := world.leases.eraseIdx position }.answer
                (.submission lease.method failure))
      | none => none

def initial (candidates : List (PyStr × π)) (bundle : BuiltBundle) : World ε π :=
  let bundle := bundle.number 0
  { manager :=
      { candidates
        bundle := some bundle
        lastRuntime := bundle
        lastController := bundle
        state := .ready
        activeSubmissions := 0
        submissionsQuiesced := true }
    transition := none
    waiting := []
    leases := []
    published := [bundle]
    parts := fun _ => .untouched
    answers := [] }

end World

def modelManager (candidates : List (PyStr × π)) (bundle : BuiltBundle) :
    Machine (World ε π) (WorldAction ε) :=
  ⟨.initial candidates bundle, World.step⟩

end ExQServe.Server
