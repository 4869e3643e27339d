import ExQServe.Foundation.Leasing
import ExQServe.Foundation.Machines
import ExQServe.Runtime.VisionCache

/-! # The renderer lanes

The model of `serving/preprocessing.py` and of the guarded commit of
`runtime/vision_cache.py`. Calls of `RendererLanePool.run` are told apart by their number,
lanes by their place in the tuple the pool is built from; the renderers are different
objects and take a cancellation event. A step of the event loop runs from one `await` to
the next. The loop stands still while `set` waits for the commit lock; the worker threads go on. The
metrics and `close` are left out. -/

namespace ExQServe.Serving
open ExQServe.Runtime
open VisionEmbeddingCache (ResolvedItem)

/-! ## The cancellation event -/

structure PreprocessingCancellation where
  isSet : Bool
  commitLocked : Bool

namespace PreprocessingCancellation

/-- `none` while the commit lock is held. -/
def set (event : PreprocessingCancellation) : Option PreprocessingCancellation :=
  if event.commitLocked then none else some { event with isSet := true }

/-- Enters `commit_guard`: what it yields, and the event with its lock held. -/
def enterGuard (event : PreprocessingCancellation) : Option (Bool × PreprocessingCancellation) :=
  if event.commitLocked then none else some (!event.isSet, { event with commitLocked := true })

def leaveGuard (event : PreprocessingCancellation) : PreprocessingCancellation :=
  { event with commitLocked := false }

end PreprocessingCancellation

/-! ## The calls of `run` -/

inductive CallPlace
  | uncalled
  /-- At `self._available.get()`. -/
  | waiting
  /-- At the first `await` of the shielded task. -/
  | working (lane : Nat)
  /-- Inside `cancel_event.set()`. -/
  | setting (lane : Nat)
  /-- Inside `await_task_termination`. -/
  | draining (lane : Nat)
  | ended

def CallPlace.lane : CallPlace → Option Nat
  | .working lane | .setting lane | .draining lane => some lane
  | _ => none

inductive OperationPlace
  | absent
  | queued (lane : Nat)
  | running (lane : Nat)
  /-- Inside the commit guard of `authority`, which yielded `allowed`. -/
  | committing (lane : Nat) (authority : Option Nat) (allowed : Bool) (items : List ResolvedItem)
  | ended

def OperationPlace.lane : OperationPlace → Option Nat
  | .queued lane | .running lane | .committing lane _ _ _ => some lane
  | _ => none

structure LaneCall where
  place : CallPlace
  operation : OperationPlace
  cancelEvent : PreprocessingCancellation

structure RendererLanePool where
  available : List Nat
  callCount : Nat
  calls : Nat → LaneCall
  /-- The call whose event the renderer of a lane holds. -/
  rendererEvent : Nat → Option Nat
  /-- The event loop is inside `set`. -/
  loopBlocked : Bool
  visionCache : VisionEmbeddingCache

namespace RendererLanePool

def initial (lanes : Nat) : RendererLanePool where
  available := List.range lanes
  callCount := 0
  calls := fun _ => ⟨.uncalled, .absent, ⟨false, false⟩⟩
  rendererEvent := fun _ => none
  loopBlocked := false
  visionCache := .initial

def setCall (pool : RendererLanePool) (number : Nat) (call : LaneCall) : RendererLanePool :=
  { pool with calls := Function.update pool.calls number call }

/-! ## Steps of the event loop -/

inductive LoopAction
  /-- A new call, up to its first `await`. -/
  | run
  /-- A waiting call gets a lane and starts its task. -/
  | acquire (number : Nat)
  /-- The caller of `run` is cancelled. -/
  | cancel (number : Nat)
  /-- The task has ended, and the call runs to its end. -/
  | finish (number : Nat)

def acquire (pool : RendererLanePool) (number : Nat) : Option RendererLanePool :=
  match (pool.calls number).place, pool.available with
  | .waiting, lane :: rest =>
      some { pool.setCall number ⟨.working lane, .queued lane, ⟨false, false⟩⟩ with
        available := rest
        rendererEvent := Function.update pool.rendererEvent lane (some number) }
  | _, _ => none

def cancel (pool : RendererLanePool) (number : Nat) : Option RendererLanePool :=
  match (pool.calls number).place with
  | .waiting => some (pool.setCall number { pool.calls number with place := .ended })
  | .working lane =>
      some { pool.setCall number { pool.calls number with place := .setting lane } with
        loopBlocked := true }
  -- `await_task_termination` goes on to wait.
  | .draining _ => some pool
  | _ => none

def handBack (pool : RendererLanePool) (number lane : Nat) : RendererLanePool :=
  { pool.setCall number { pool.calls number with place := .ended } with
    available := pool.available ++ [lane]
    rendererEvent := Function.update pool.rendererEvent lane none }

def finish (pool : RendererLanePool) (number : Nat) : Option RendererLanePool :=
  match (pool.calls number).operation, (pool.calls number).place with
  | .ended, .working lane | .ended, .draining lane => some (pool.handBack number lane)
  | _, _ => none

def loopStep (pool : RendererLanePool) : LoopAction → Option RendererLanePool
  | .run =>
      some { pool.setCall pool.callCount ⟨.waiting, .absent, ⟨false, false⟩⟩ with
        callCount := pool.callCount + 1 }
  | .acquire number => pool.acquire number
  | .cancel number => pool.cancel number
  | .finish number => pool.finish number

/-- `cancel_event.set()` gets the commit lock, and returns. -/
def setEvent (pool : RendererLanePool) (number : Nat) : Option RendererLanePool :=
  match (pool.calls number).place, (pool.calls number).cancelEvent.set with
  | .setting lane, some event =>
      some { pool.setCall number
          { pool.calls number with place := .draining lane, cancelEvent := event } with
        loopBlocked := false }
  | _, _ => none

/-! ## Steps of the operations -/

def setOperation (pool : RendererLanePool) (number : Nat) (operation : OperationPlace) :
    RendererLanePool :=
  pool.setCall number { pool.calls number with operation := operation }

def setCancelEvent (pool : RendererLanePool) (number : Nat) (event : PreprocessingCancellation) :
    RendererLanePool :=
  pool.setCall number { pool.calls number with cancelEvent := event }

def startOperation (pool : RendererLanePool) (number : Nat) : Option RendererLanePool :=
  match (pool.calls number).operation with
  | .queued lane => some (pool.setOperation number (.running lane))
  | _ => none

/-- `commit_request_if_active` with the event of the renderer, up to the entry of the guard. -/
def commitIfActive (pool : RendererLanePool) (number : Nat) (items : List ResolvedItem) :
    Option RendererLanePool :=
  match (pool.calls number).operation with
  | .running lane =>
      -- Repeated keys raise before the guard.
      if ¬(items.map Prod.fst).Nodup then some pool
      else
        match pool.rendererEvent lane with
        | none => some (pool.setOperation number (.committing lane none true items))
        | some authority =>
            (pool.calls authority).cancelEvent.enterGuard.map fun entered =>
              (pool.setCancelEvent authority entered.2).setOperation number
                (.committing lane (some authority) entered.1 items)
  | _ => none

/-- `commit_request` inside its guard, and the way out of the guard. -/
def publish (budget : Nat) (pool : RendererLanePool) (number : Nat) : Option RendererLanePool :=
  match (pool.calls number).operation with
  | .committing lane authority allowed items =>
      let left := match authority with
        | none => pool
        | some event => pool.setCancelEvent event (pool.calls event).cancelEvent.leaveGuard
      some { left.setOperation number (.running lane) with
        visionCache := (pool.visionCache.commitRequest budget items allowed).2 }
  | _ => none

def endOperation (pool : RendererLanePool) (number : Nat) : Option RendererLanePool :=
  match (pool.calls number).operation with
  | .queued _ | .running _ => some (pool.setOperation number .ended)
  | _ => none

inductive LaneAction
  | loop (action : LoopAction)
  | setEvent (number : Nat)
  | start (number : Nat)
  | commit (number : Nat) (items : List ResolvedItem)
  | publish (number : Nat)
  | endOperation (number : Nat)
  /-- Anybody else uses the cache. -/
  | use (operation : VisionEmbeddingCache.Operation)

def step (budget : Nat) (pool : RendererLanePool) : LaneAction → Option RendererLanePool
  | .loop action => if pool.loopBlocked then none else pool.loopStep action
  | .setEvent number => pool.setEvent number
  | .start number => pool.startOperation number
  | .commit number items => pool.commitIfActive number items
  | .publish number => pool.publish budget number
  | .endOperation number => pool.endOperation number
  | .use operation =>
      some { pool with visionCache := pool.visionCache.perform budget operation }

def machine (lanes budget : Nat) : Machine RendererLanePool LaneAction where
  initial := initial lanes
  step := step budget

/-! ## What a step can do -/

def held (pool : RendererLanePool) (number : Nat) : Option Nat := (pool.calls number).place.lane

def operates (pool : RendererLanePool) (number : Nat) : Option Nat :=
  (pool.calls number).operation.lane

variable {lanes budget : Nat} {pool next : RendererLanePool} {number : Nat}

@[simp] theorem setCall_calls (call : LaneCall) :
    (pool.setCall number call).calls = Function.update pool.calls number call := rfl

@[simp] theorem setCall_available (call : LaneCall) :
    (pool.setCall number call).available = pool.available := rfl

@[simp] theorem setCall_callCount (call : LaneCall) :
    (pool.setCall number call).callCount = pool.callCount := rfl

@[simp] theorem setCall_rendererEvent (call : LaneCall) :
    (pool.setCall number call).rendererEvent = pool.rendererEvent := rfl

@[simp] theorem setCall_held (call : LaneCall) :
    (pool.setCall number call).held = Function.update pool.held number call.place.lane :=
  funext fun other => by
    by_cases same : other = number
    · simp [held, same]
    · simp [held, same]

inductive Steps (budget : Nat) (pool : RendererLanePool) : LaneAction → RendererLanePool → Prop
  | run : Steps budget pool (.loop .run)
      { pool.setCall pool.callCount ⟨.waiting, .absent, ⟨false, false⟩⟩ with
        callCount := pool.callCount + 1 }
  | acquire {number lane : Nat} {rest : List Nat} (waits : (pool.calls number).place = .waiting)
      (free : pool.available = lane :: rest) :
      Steps budget pool (.loop (.acquire number))
        { pool.setCall number ⟨.working lane, .queued lane, ⟨false, false⟩⟩ with
          available := rest
          rendererEvent := Function.update pool.rendererEvent lane (some number) }
  | giveUp {number : Nat} (waits : (pool.calls number).place = .waiting) :
      Steps budget pool (.loop (.cancel number))
        (pool.setCall number { pool.calls number with place := .ended })
  | cancel {number lane : Nat} (works : (pool.calls number).place = .working lane) :
      Steps budget pool (.loop (.cancel number))
        { pool.setCall number { pool.calls number with place := .setting lane } with
          loopBlocked := true }
  | cancelAgain {number lane : Nat} (drains : (pool.calls number).place = .draining lane) :
      Steps budget pool (.loop (.cancel number)) pool
  | finish {number lane : Nat} (ended : (pool.calls number).operation = .ended)
      (holds : pool.held number = some lane) :
      Steps budget pool (.loop (.finish number)) (pool.handBack number lane)
  | setEvent {number lane : Nat} (sets : (pool.calls number).place = .setting lane)
      (unlocked : (pool.calls number).cancelEvent.commitLocked = false) :
      Steps budget pool (.setEvent number)
        { pool.setCall number
            { pool.calls number with
              place := .draining lane
              cancelEvent := { (pool.calls number).cancelEvent with isSet := true } } with
          loopBlocked := false }
  | start {number lane : Nat} (waits : (pool.calls number).operation = .queued lane) :
      Steps budget pool (.start number) (pool.setOperation number (.running lane))
  | repeated {number lane : Nat} {items : List ResolvedItem}
      (runs : (pool.calls number).operation = .running lane) :
      Steps budget pool (.commit number items) pool
  | unguarded {number lane : Nat} {items : List ResolvedItem}
      (runs : (pool.calls number).operation = .running lane)
      (free : pool.rendererEvent lane = none) :
      Steps budget pool (.commit number items)
        (pool.setOperation number (.committing lane none true items))
  | commit {number lane authority : Nat} {items : List ResolvedItem}
      (runs : (pool.calls number).operation = .running lane)
      (guard : pool.rendererEvent lane = some authority)
      (unlocked : (pool.calls authority).cancelEvent.commitLocked = false) :
      Steps budget pool (.commit number items)
        ((pool.setCancelEvent authority
            { (pool.calls authority).cancelEvent with commitLocked := true }).setOperation number
          (.committing lane (some authority) (!(pool.calls authority).cancelEvent.isSet) items))
  | publish {number lane : Nat} {authority : Option Nat} {allowed : Bool}
      {items : List ResolvedItem} {next : RendererLanePool}
      (commits : (pool.calls number).operation = .committing lane authority allowed items)
      (published : pool.publish budget number = some next) :
      Steps budget pool (.publish number) next
  | endOperation {number lane : Nat} (busy : pool.operates number = some lane) :
      Steps budget pool (.endOperation number) (pool.setOperation number .ended)
  | use (operation : VisionEmbeddingCache.Operation) :
      Steps budget pool (.use operation)
        { pool with visionCache := pool.visionCache.perform budget operation }

theorem loop_steps {action : LoopAction} (taken : pool.loopStep action = some next) :
    Steps budget pool (.loop action) next := by
  cases action with
  | run =>
      cases taken
      exact .run
  | acquire number =>
      rw [loopStep, RendererLanePool.acquire] at taken
      split at taken
      · rename_i waits free
        cases taken
        exact .acquire waits free
      · cases taken
  | cancel number =>
      rw [loopStep, RendererLanePool.cancel] at taken
      split at taken
      · rename_i waits
        cases taken
        exact .giveUp waits
      · rename_i works
        cases taken
        exact .cancel works
      · rename_i drains
        cases taken
        exact .cancelAgain drains
      · cases taken
  | finish number =>
      rw [loopStep, RendererLanePool.finish] at taken
      split at taken
      · rename_i ended works
        cases taken
        exact .finish ended (by rw [held, works]; rfl)
      · rename_i ended drains
        cases taken
        exact .finish ended (by rw [held, drains]; rfl)
      · cases taken

theorem commit_steps {items : List ResolvedItem}
    (taken : pool.commitIfActive number items = some next) :
    Steps budget pool (.commit number items) next := by
  rw [commitIfActive] at taken
  split at taken
  · rename_i runs
    split at taken
    · cases taken
      exact .repeated runs
    split at taken
    · rename_i free
      cases taken
      exact .unguarded runs free
    · rename_i guard
      rcases Option.map_eq_some_iff.mp taken with ⟨entered, enters, same⟩
      rw [PreprocessingCancellation.enterGuard] at enters
      split at enters
      · cases enters
      · rename_i unlocked
        cases enters
        cases same
        exact .commit runs guard (Bool.eq_false_iff.mpr unlocked)
  · cases taken

theorem step_steps {action : LaneAction} (taken : step budget pool action = some next) :
    Steps budget pool action next := by
  cases action with
  | loop action =>
      rw [step] at taken
      split at taken
      · cases taken
      · exact loop_steps taken
  | setEvent number =>
      rw [step, RendererLanePool.setEvent] at taken
      split at taken
      · rename_i sets unlocked
        rw [PreprocessingCancellation.set] at unlocked
        split at unlocked
        · cases unlocked
        · rename_i free
          cases unlocked
          cases taken
          exact .setEvent sets (Bool.eq_false_iff.mpr free)
      · cases taken
  | start number =>
      rw [step, startOperation] at taken
      split at taken
      · rename_i waits
        cases taken
        exact .start waits
      · cases taken
  | commit number items => exact commit_steps taken
  | publish number =>
      cases commits : (pool.calls number).operation with
      | committing lane authority allowed items => exact .publish commits taken
      | absent | queued | running | ended =>
          rw [step, RendererLanePool.publish, commits] at taken
          cases taken
  | endOperation number =>
      rw [step, RendererLanePool.endOperation] at taken
      split at taken
      · rename_i waits
        cases taken
        exact .endOperation (by rw [operates, waits]; rfl)
      · rename_i runs
        cases taken
        exact .endOperation (by rw [operates, runs]; rfl)
      · cases taken
  | use operation =>
      cases taken
      exact .use operation

/-! ## What every state keeps -/

structure CallSound (number : Nat) (call : LaneCall) : Prop where
  placed : ∀ lane, call.operation.lane = some lane → call.place.lane = some lane
  guarded : ∀ lane authority allowed items,
    call.operation = .committing lane authority allowed items →
      authority = some number ∧ allowed = !call.cancelEvent.isSet ∧
        call.cancelEvent.commitLocked = true

structure PoolSound (lanes : Nat) (pool : RendererLanePool) : Prop where
  leased : Leased (List.range lanes) pool.available pool.held
  ownEvent : ∀ number lane, pool.held number = some lane → pool.rendererEvent lane = some number
  calls : ∀ number, CallSound number (pool.calls number)
  called : ∀ number, pool.callCount ≤ number → (pool.calls number).place = .uncalled

namespace PoolSound

theorem initial (lanes : Nat) : PoolSound lanes (initial lanes) where
  leased := .initial List.nodup_range fun _ => rfl
  ownEvent _ _ holds := nomatch holds
  calls _ := ⟨nofun, nofun⟩
  called _ _ := rfl

theorem number_lt (sound : PoolSound lanes pool)
    (called : (pool.calls number).place ≠ .uncalled) : number < pool.callCount := by
  by_contra late
  exact called (sound.called number (Nat.not_lt.mp late))

theorem lt_of_lane (sound : PoolSound lanes pool) {lane : Nat}
    (holds : pool.held number = some lane) : number < pool.callCount := by
  apply sound.number_lt
  intro uncalled
  rw [held, uncalled] at holds
  cases holds

theorem holds_of_operates (sound : PoolSound lanes pool) {lane : Nat}
    (operates : pool.operates number = some lane) : pool.held number = some lane :=
  (sound.calls number).placed lane operates

theorem update_calls (sound : PoolSound lanes pool) {call : LaneCall}
    (good : CallSound number call) (other : Nat) :
    CallSound other (Function.update pool.calls number call other) := by
  by_cases same : other = number
  · rw [same, Function.update_self]
    exact good
  · rw [Function.update_of_ne same]
    exact sound.calls other

theorem update_called (sound : PoolSound lanes pool) (call : LaneCall)
    (called : number < pool.callCount) (other : Nat) (late : pool.callCount ≤ other) :
    (Function.update pool.calls number call other).place = .uncalled := by
  rw [Function.update_of_ne (by omega)]
  exact sound.called other late

/-- A call may change as long as it keeps its lane. -/
theorem setCall (sound : PoolSound lanes pool) {call : LaneCall}
    (same : call.place.lane = pool.held number) (good : CallSound number call)
    (called : number < pool.callCount) : PoolSound lanes (pool.setCall number call) := by
  have kept : (pool.setCall number call).held = pool.held := by
    rw [setCall_held, same, Function.update_eq_self]
  constructor
  · rw [kept]
    exact sound.leased
  · rw [kept]
    exact sound.ownEvent
  · exact sound.update_calls good
  · exact sound.update_called call called

theorem setOperation (sound : PoolSound lanes pool) {lane : Nat} {operation : OperationPlace}
    (holds : pool.held number = some lane)
    (placed : ∀ other, operation.lane = some other → other = lane)
    (guarded : ∀ other authority allowed items,
      operation = .committing other authority allowed items →
        authority = some number ∧ allowed = !(pool.calls number).cancelEvent.isSet ∧
          (pool.calls number).cancelEvent.commitLocked = true) :
    PoolSound lanes (pool.setOperation number operation) := by
  apply sound.setCall
  · rfl
  · constructor
    · intro other operates
      rw [placed other operates]
      exact holds
    · exact guarded
  · exact sound.lt_of_lane holds

/-- The commit lock of an event changes hands only with the place of the operation. -/
theorem setEventOperation (sound : PoolSound lanes pool) {lane : Nat}
    {event : PreprocessingCancellation} {operation : OperationPlace}
    (holds : pool.held number = some lane)
    (placed : ∀ other, operation.lane = some other → other = lane)
    (guarded : ∀ other authority allowed items,
      operation = .committing other authority allowed items →
        authority = some number ∧ allowed = !event.isSet ∧ event.commitLocked = true) :
    PoolSound lanes ((pool.setCancelEvent number event).setOperation number operation) := by
  have joined : (pool.setCancelEvent number event).setOperation number operation =
      pool.setCall number
        { pool.calls number with operation := operation, cancelEvent := event } := by
    simp [RendererLanePool.setOperation, setCancelEvent, RendererLanePool.setCall]
  rw [joined]
  apply sound.setCall
  · rfl
  · constructor
    · intro other operates
      rw [placed other operates]
      exact holds
    · exact guarded
  · exact sound.lt_of_lane holds

/-- The parts of the pool that its rules do not speak about. -/
theorem congr (sound : PoolSound lanes pool) (blocked : Bool) (cache : VisionEmbeddingCache) :
    PoolSound lanes { pool with loopBlocked := blocked, visionCache := cache } :=
  ⟨sound.leased, sound.ownEvent, sound.calls, sound.called⟩

theorem run (sound : PoolSound lanes pool) :
    PoolSound lanes { pool.setCall pool.callCount ⟨.waiting, .absent, ⟨false, false⟩⟩ with
      callCount := pool.callCount + 1 } := by
  have idle : pool.held pool.callCount = none := by
    rw [held, sound.called pool.callCount le_rfl]
    rfl
  have kept :
      (pool.setCall pool.callCount ⟨.waiting, .absent, ⟨false, false⟩⟩).held = pool.held := by
    rw [setCall_held]
    exact Function.update_eq_self_iff.mpr idle.symm
  constructor
  · exact kept ▸ sound.leased
  · exact kept ▸ sound.ownEvent
  · apply sound.update_calls
    exact ⟨nofun, nofun⟩
  · intro other late
    dsimp only [setCall_calls] at late ⊢
    rw [Function.update_of_ne (by omega)]
    exact sound.called other (by omega)

theorem acquire (sound : PoolSound lanes pool) {lane : Nat} {rest : List Nat}
    (waits : (pool.calls number).place = .waiting) (free : pool.available = lane :: rest) :
    PoolSound lanes { pool.setCall number ⟨.working lane, .queued lane, ⟨false, false⟩⟩ with
      available := rest
      rendererEvent := Function.update pool.rendererEvent lane (some number) } := by
  have idle : pool.held number = none := by
    rw [held, waits]
    rfl
  have taken := (free ▸ sound.leased).take idle
  constructor
  · apply taken.congr
    intro other
    exact congrFun (setCall_held _) other
  · intro other owned holds
    change (pool.setCall number _).held other = some owned at holds
    rw [setCall_held] at holds
    by_cases same : other = number
    · rw [same, Function.update_self] at holds
      cases holds
      rw [same]
      exact Function.update_self ..
    · rw [Function.update_of_ne same] at holds
      have apart : owned ≠ lane := by
        intro clash
        apply (sound.leased.lent other owned holds).2
        rw [clash, free]
        exact List.mem_cons_self
      exact (Function.update_of_ne apart ..).trans (sound.ownEvent other owned holds)
  · apply sound.update_calls
    exact ⟨fun _ operates => operates, fun _ _ _ _ commits => nomatch commits⟩
  · apply sound.update_called
    exact sound.number_lt (by rw [waits]; exact nofun)

theorem handBack (sound : PoolSound lanes pool) {lane : Nat}
    (ended : (pool.calls number).operation = .ended) (holds : pool.held number = some lane) :
    PoolSound lanes (pool.handBack number lane) := by
  have given := sound.leased.give holds
  constructor
  · apply given.congr
    intro other
    exact congrFun (setCall_held _) other
  · intro other owned also
    change (pool.setCall number _).held other = some owned at also
    rw [setCall_held] at also
    by_cases same : other = number
    · rw [same, Function.update_self] at also
      cases also
    · rw [Function.update_of_ne same] at also
      have apart : owned ≠ lane := by
        intro clash
        exact same (sound.leased.single other number lane (clash ▸ also) holds)
      exact (Function.update_of_ne apart ..).trans (sound.ownEvent other owned also)
  · apply sound.update_calls
    constructor
    · intro other operates
      rw [ended] at operates
      cases operates
    · intro other authority allowed items commits
      rw [ended] at commits
      cases commits
  · exact sound.update_called _ (sound.lt_of_lane holds)

theorem step (sound : PoolSound lanes pool) {action : LaneAction}
    (steps : Steps budget pool action next) : PoolSound lanes next := by
  cases steps with
  | run => exact sound.run
  | acquire waits free => exact sound.acquire waits free
  | @giveUp number waits =>
      apply sound.setCall
      · rw [held, waits]
        rfl
      · have idle {lane : Nat} : (pool.calls number).operation.lane ≠ some lane := by
          intro operates
          have holds := (sound.calls number).placed lane operates
          rw [waits] at holds
          cases holds
        constructor
        · intro lane operates
          exact absurd operates idle
        · exact (sound.calls number).guarded
      · exact sound.number_lt (by rw [waits]; exact nofun)
  | @cancel number lane works =>
      have holds : pool.held number = some lane := by rw [held, works]; rfl
      apply PoolSound.congr _ true pool.visionCache
      apply sound.setCall
      · exact holds.symm
      · constructor
        · intro other operates
          exact holds.symm.trans ((sound.calls number).placed other operates)
        · exact (sound.calls number).guarded
      · exact sound.lt_of_lane holds
  | cancelAgain drains => exact sound
  | finish ended holds => exact sound.handBack ended holds
  | @setEvent number lane sets unlocked =>
      have holds : pool.held number = some lane := by rw [held, sets]; rfl
      apply PoolSound.congr _ false pool.visionCache
      apply sound.setCall
      · exact holds.symm
      · constructor
        · intro other operates
          exact holds.symm.trans ((sound.calls number).placed other operates)
        · -- An operation inside the guard would have the lock.
          intro other authority allowed items commits
          have locked := ((sound.calls number).guarded _ _ _ _ commits).2.2
          rw [unlocked] at locked
          cases locked
      · exact sound.lt_of_lane holds
  | @start number lane waits =>
      have holds : pool.held number = some lane :=
        sound.holds_of_operates (by rw [operates, waits]; rfl)
      apply sound.setOperation holds
      · intro other same
        exact (Option.some.inj same).symm
      · exact nofun
  | repeated runs => exact sound
  | @unguarded number lane items runs free =>
      have holds : pool.held number = some lane :=
        sound.holds_of_operates (by rw [operates, runs]; rfl)
      rw [sound.ownEvent number lane holds] at free
      cases free
  | @commit number lane authority items runs guard unlocked =>
      have holds : pool.held number = some lane :=
        sound.holds_of_operates (by rw [operates, runs]; rfl)
      rw [sound.ownEvent number lane holds] at guard
      cases guard
      apply sound.setEventOperation holds
      · intro other same
        exact (Option.some.inj same).symm
      · intro other authority allowed items same
        cases same
        exact ⟨rfl, rfl, rfl⟩
  | @publish number lane authority allowed items next commits published =>
      have holds : pool.held number = some lane :=
        sound.holds_of_operates (by rw [operates, commits]; rfl)
      rw [RendererLanePool.publish, commits, ((sound.calls number).guarded _ _ _ _ commits).1]
        at published
      cases published
      apply PoolSound.congr _ _ _
      apply sound.setEventOperation holds
      · intro other same
        exact (Option.some.inj same).symm
      · exact nofun
  | @endOperation number lane busy =>
      apply sound.setOperation (sound.holds_of_operates busy)
      · exact nofun
      · exact nofun
  | use operation => exact sound.congr _ _

theorem runs {actions : List LaneAction} (run : (machine lanes budget).Runs actions pool) :
    PoolSound lanes pool :=
  @Machine.Runs.preserves _ _ (machine lanes budget) (PoolSound lanes) (initial lanes)
    (fun _ _ _ sound taken => sound.step (step_steps taken)) _ _ run

end PoolSound

/-! ## What the run so far says about a call -/

/-- Nobody will set the event of the call any more. -/
def settled : CallPlace → Bool
  | .draining _ | .ended => true
  | _ => false

structure CallTraced (actions : List LaneAction) (number : Nat) (call : LaneCall) : Prop where
  set : .setEvent number ∈ actions ↔ call.cancelEvent.isSet = true
  settled : call.cancelEvent.isSet = true → settled call.place = true
  acquired : .loop (.acquire number) ∈ actions →
    call.operation ≠ .absent ∧ call.place ≠ .uncalled
  guarded : ∀ lane authority allowed items,
    call.operation = .committing lane authority allowed items →
      ∃ earlier later, actions = earlier ++ .commit number items :: later ∧
        .publish number ∉ later

def Traced (actions : List LaneAction) (pool : RendererLanePool) : Prop :=
  ∀ number, CallTraced actions number (pool.calls number)

def about : LaneAction → Option Nat
  | .loop .run | .use _ => none
  | .loop (.acquire number) | .loop (.cancel number) | .loop (.finish number) => some number
  | .setEvent number | .start number | .commit number _ | .publish number
  | .endOperation number => some number

variable {actions : List LaneAction} {action : LaneAction} {call : LaneCall}

theorem mem_snoc {entry : LaneAction} (apart : action ≠ entry) :
    entry ∈ actions ++ [action] ↔ entry ∈ actions := by
  simp [apart.symm]

/-- A change of a call other than by its lane, its event or its way out of the guard. -/
theorem CallTraced.change {changed : LaneCall} (traced : CallTraced actions number call)
    (unset : action ≠ .setEvent number) (unacquired : action ≠ .loop (.acquire number))
    (unpublished : action ≠ .publish number)
    (event : changed.cancelEvent.isSet = call.cancelEvent.isSet)
    (settles : RendererLanePool.settled call.place = true →
      RendererLanePool.settled changed.place = true)
    (present : call.operation ≠ .absent → changed.operation ≠ .absent)
    (called : call.place ≠ .uncalled → changed.place ≠ .uncalled)
    (guarded : ∀ lane authority allowed items,
      changed.operation = .committing lane authority allowed items →
        call.operation = .committing lane authority allowed items ∨
          action = .commit number items) :
    CallTraced (actions ++ [action]) number changed := by
  constructor
  · rw [mem_snoc unset, event]
    exact traced.set
  · intro set
    exact settles (traced.settled (event ▸ set))
  · intro member
    have parts := traced.acquired ((mem_snoc unacquired).mp member)
    exact ⟨present parts.1, called parts.2⟩
  · intro lane authority allowed items commits
    rcases guarded lane authority allowed items commits with same | now
    · rcases traced.guarded lane authority allowed items same with
        ⟨earlier, later, split, quiet⟩
      refine ⟨earlier, later ++ [action], by simp [split], ?_⟩
      rwa [mem_snoc unpublished]
    · exact ⟨actions, [], by rw [now], List.not_mem_nil⟩

theorem CallTraced.other (traced : CallTraced actions number call)
    (apart : about action ≠ some number) : CallTraced (actions ++ [action]) number call := by
  apply traced.change _ _ _ rfl id id id fun _ _ _ _ => .inl <;>
    (intro same; rw [same] at apart; exact apart rfl)

namespace Traced

theorem setCall (traced : Traced actions pool)
    (aside : ∀ other, about action = some other → other = number)
    (own : CallTraced (actions ++ [action]) number call) :
    Traced (actions ++ [action]) (pool.setCall number call) := by
  intro other
  rw [setCall_calls]
  by_cases same : other = number
  · rw [same, Function.update_self]
    exact own
  · rw [Function.update_of_ne same]
    exact (traced other).other fun concerns => same (aside other concerns)

theorem unset (traced : Traced actions pool)
    (unsettled : settled (pool.calls number).place = false) :
    .setEvent number ∉ actions := by
  intro member
  have past := (traced number).settled ((traced number).set.mp member)
  rw [unsettled] at past
  cases past

theorem run (traced : Traced actions pool) (sound : PoolSound lanes pool) :
    Traced (actions ++ [.loop .run])
      (pool.setCall pool.callCount ⟨.waiting, .absent, ⟨false, false⟩⟩) := by
  have fresh := sound.called pool.callCount le_rfl
  apply traced.setCall
  · exact nofun
  constructor
  · simpa using traced.unset (by rw [fresh]; rfl)
  · exact nofun
  · intro member
    exact absurd fresh ((traced _).acquired (by simpa using member)).2
  · exact nofun

theorem acquire (traced : Traced actions pool) {lane : Nat}
    (waits : (pool.calls number).place = .waiting) :
    Traced (actions ++ [.loop (.acquire number)])
      (pool.setCall number ⟨.working lane, .queued lane, ⟨false, false⟩⟩) := by
  apply traced.setCall
  · intro other concerns
    exact (Option.some.inj concerns).symm
  constructor
  · simpa using traced.unset (by rw [waits]; rfl)
  · exact nofun
  · exact fun _ => ⟨nofun, nofun⟩
  · exact nofun

theorem setEvent (traced : Traced actions pool) (lane : Nat) :
    Traced (actions ++ [.setEvent number])
      (pool.setCall number
        { pool.calls number with
          place := .draining lane
          cancelEvent := { (pool.calls number).cancelEvent with isSet := true } }) := by
  apply traced.setCall
  · intro other concerns
    exact (Option.some.inj concerns).symm
  constructor
  · exact iff_of_true (List.mem_append_right _ List.mem_cons_self) rfl
  · exact fun _ => rfl
  · intro member
    exact ⟨((traced number).acquired (by simpa using member)).1, nofun⟩
  · intro lane authority allowed items commits
    rcases (traced number).guarded lane authority allowed items commits with
      ⟨earlier, later, split, quiet⟩
    exact ⟨earlier, later ++ [.setEvent number], by simp [split], by simpa using quiet⟩

/-- A step of the operation of a call, in its guard or out of it. -/
theorem operation (traced : Traced actions pool) {operation : OperationPlace}
    {event : PreprocessingCancellation} (concerns : about action = some number)
    (unset : action ≠ .setEvent number) (unacquired : action ≠ .loop (.acquire number))
    (same : event.isSet = (pool.calls number).cancelEvent.isSet)
    (present : operation ≠ .absent)
    (guarded : ∀ lane authority allowed items,
      operation = .committing lane authority allowed items → action = .commit number items) :
    Traced (actions ++ [action])
      (pool.setCall number
        { pool.calls number with operation := operation, cancelEvent := event }) := by
  apply traced.setCall (fun other named => Option.some.inj (named.symm.trans concerns))
  constructor
  · rw [mem_snoc unset, (traced number).set]
    exact iff_of_eq (congrArg (· = true) same.symm)
  · intro set
    exact (traced number).settled (same ▸ set)
  · intro member
    exact ⟨present, ((traced number).acquired ((mem_snoc unacquired).mp member)).2⟩
  · intro lane authority allowed items commits
    exact ⟨actions, [], by rw [guarded lane authority allowed items commits], List.not_mem_nil⟩

theorem place (traced : Traced actions pool) {place : CallPlace}
    (concerns : about action = some number)
    (unset : action ≠ .setEvent number) (unacquired : action ≠ .loop (.acquire number))
    (unpublished : action ≠ .publish number)
    (settles : settled (pool.calls number).place = true → settled place = true)
    (called : place ≠ .uncalled) :
    Traced (actions ++ [action])
      (pool.setCall number { pool.calls number with place := place }) := by
  apply traced.setCall (fun other named => Option.some.inj (named.symm.trans concerns))
  exact (traced number).change unset unacquired unpublished rfl settles id (fun _ => called)
    fun _ _ _ _ => .inl

/-- An action that changes no call. -/
theorem keep (traced : Traced actions pool) (unset : ∀ number, action ≠ .setEvent number)
    (unacquired : ∀ number, action ≠ .loop (.acquire number))
    (unpublished : ∀ number, action ≠ .publish number) : Traced (actions ++ [action]) pool :=
  fun number => (traced number).change (unset number) (unacquired number) (unpublished number)
    rfl id id id fun _ _ _ _ => .inl

end Traced

theorem setEventOperation_eq {event : PreprocessingCancellation} {operation : OperationPlace} :
    (pool.setCancelEvent number event).setOperation number operation =
      pool.setCall number
        { pool.calls number with operation := operation, cancelEvent := event } := by
  simp [setOperation, setCancelEvent, setCall]

theorem Traced.step (traced : Traced actions pool) (sound : PoolSound lanes pool)
    (steps : Steps budget pool action next) : Traced (actions ++ [action]) next := by
  cases steps with
  | run => exact traced.run sound
  | acquire waits free => exact traced.acquire waits
  | giveUp waits => exact traced.place rfl nofun nofun nofun (fun _ => rfl) nofun
  | cancel works =>
      apply traced.place
      · rfl
      · exact nofun
      · exact nofun
      · exact nofun
      · intro past
        rw [works] at past
        cases past
      · exact nofun
  | cancelAgain drains => exact traced.keep nofun nofun nofun
  | finish ended holds => exact traced.place rfl nofun nofun nofun (fun _ => rfl) nofun
  | setEvent sets unlocked => exact traced.setEvent _
  | start waits => exact traced.operation rfl nofun nofun rfl nofun nofun
  | repeated runs => exact traced.keep nofun nofun nofun
  | @unguarded number lane items runs free =>
      have holds : pool.held number = some lane :=
        sound.holds_of_operates (by rw [operates, runs]; rfl)
      rw [sound.ownEvent number lane holds] at free
      cases free
  | @commit number lane authority items runs guard unlocked =>
      have holds : pool.held number = some lane :=
        sound.holds_of_operates (by rw [operates, runs]; rfl)
      rw [sound.ownEvent number lane holds] at guard
      cases guard
      rw [setEventOperation_eq]
      apply traced.operation
      · rfl
      · exact nofun
      · exact nofun
      · rfl
      · exact nofun
      · intro other authority allowed more same
        cases same
        rfl
  | @publish number lane authority allowed items next commits published =>
      rw [RendererLanePool.publish, commits, ((sound.calls number).guarded _ _ _ _ commits).1]
        at published
      cases published
      have moved := @Traced.operation pool number actions (.publish number) traced (.running lane)
        (pool.calls number).cancelEvent.leaveGuard rfl nofun nofun rfl nofun nofun
      rw [← setEventOperation_eq] at moved
      exact moved
  | endOperation busy => exact traced.operation rfl nofun nofun rfl nofun nofun
  | use operation => exact traced.keep nofun nofun nofun

theorem Traced.runs (run : (machine lanes budget).Runs actions pool) : Traced actions pool := by
  apply @Machine.Runs.invariant _ _ (machine lanes budget) Traced _ _ _ _ run
  · intro number
    exact ⟨⟨nofun, nofun⟩, nofun, nofun, nofun⟩
  · intro actions pool action next run traced taken
    exact traced.step (PoolSound.runs run) (step_steps taken)

/-! ## The rules of the lanes -/

structure LaneRules (lanes : Nat) (actions : List LaneAction) (pool : RendererLanePool) : Prop where
  known : ∀ lane ∈ pool.available, lane < lanes
  conserved : ∀ lane < lanes,
    (pool.available.count lane = 1 ∧ ∀ number, pool.held number ≠ some lane) ∨
      (pool.available.count lane = 0 ∧ ∃! number, pool.held number = some lane)
  exclusive : ∀ first second lane, pool.operates first = some lane →
    pool.operates second = some lane → first = second
  outlasting : ∀ number, .loop (.acquire number) ∈ actions →
    (pool.calls number).place = .ended → (pool.calls number).operation = .ended
  ownEvent : ∀ number lane, pool.operates number = some lane →
    pool.rendererEvent lane = some number
  returned : (∀ number < pool.callCount, (pool.calls number).place = .ended) →
    pool.available.Perm (List.range lanes)

/-- A call whose commit changes the cache took the guard of the commit with its event not
set, and its event has not been set since. -/
def PublishesActive (lanes budget : Nat) (actions : List LaneAction) : Prop :=
  ∀ before after number state next, actions = before ++ .publish number :: after →
    (machine lanes budget).Runs before state → step budget state (.publish number) = some next →
      next.visionCache ≠ state.visionCache →
        .setEvent number ∉ before ∧
          ∃ earlier items later guarded, before = earlier ++ .commit number items :: later ∧
            .publish number ∉ later ∧ (machine lanes budget).Runs earlier guarded ∧
              (guarded.calls number).cancelEvent.isSet = false

theorem operation_ended (sound : CallSound number call) (ended : call.place = .ended)
    (present : call.operation ≠ .absent) : call.operation = .ended := by
  have idle {lane : Nat} (operates : call.operation.lane = some lane) : False := by
    have holds := sound.placed lane operates
    rw [ended] at holds
    cases holds
  cases shown : call.operation with
  | absent => exact absurd shown present
  | queued lane => exact (idle (by rw [shown]; rfl)).elim
  | running lane => exact (idle (by rw [shown]; rfl)).elim
  | committing lane authority allowed items => exact (idle (by rw [shown]; rfl)).elim
  | ended => rfl

theorem lane_rules (sound : PoolSound lanes pool) (traced : Traced actions pool) :
    LaneRules lanes actions pool where
  known lane member := List.mem_range.mp (sound.leased.known lane member)
  conserved lane small := sound.leased.once (List.mem_range.mpr small)
  exclusive first second lane left right :=
    sound.leased.single first second lane (sound.holds_of_operates left)
      (sound.holds_of_operates right)
  outlasting number member ended :=
    operation_ended (sound.calls number) ended ((traced number).acquired member).1
  ownEvent number lane operates := sound.ownEvent number lane (sound.holds_of_operates operates)
  returned := by
    intro ended
    apply sound.leased.returned List.nodup_range
    intro number
    rw [held]
    by_cases called : number < pool.callCount
    · rw [ended number called]
      rfl
    · rw [sound.called number (Nat.not_lt.mp called)]
      rfl

theorem commitRequest_refused (items : List ResolvedItem) (cache : VisionEmbeddingCache) :
    (cache.commitRequest budget items false).2 = cache := by
  simp only [VisionEmbeddingCache.commitRequest]
  split <;> rfl

/-- The guard that let a commit change the cache said so. -/
theorem publish_allowed (published : pool.publish budget number = some next)
    (changes : next.visionCache ≠ pool.visionCache) :
    ∃ lane authority items,
      (pool.calls number).operation = .committing lane authority true items := by
  rw [publish] at published
  split at published
  · rename_i lane authority allowed items commits
    cases published
    cases allowed with
    | true => exact ⟨lane, authority, items, commits⟩
    | false => exact absurd (commitRequest_refused items _) changes
  · cases published

theorem publishes_active (lanes budget : Nat) (actions : List LaneAction) :
    PublishesActive lanes budget actions := by
  intro before after number state next split run taken changes
  have sound : PoolSound lanes state := .runs run
  have traced : Traced before state := .runs run
  rcases publish_allowed taken changes with ⟨lane, authority, items, commits⟩
  have unset : (state.calls number).cancelEvent.isSet = false := by
    simpa using ((sound.calls number).guarded _ _ _ _ commits).2.1
  have absent : .setEvent number ∉ before := by
    rw [(traced number).set, unset]
    exact Bool.false_ne_true
  rcases (traced number).guarded _ _ _ _ commits with ⟨earlier, later, parts, quiet⟩
  rcases (parts ▸ run).of_append with ⟨guarded, reached⟩
  refine ⟨absent, earlier, items, later, guarded, parts, quiet, reached, ?_⟩
  rw [← Bool.not_eq_true, ← (Traced.runs reached number).set]
  intro member
  exact absent (parts ▸ List.mem_append_left _ member)

/-- Lanes are never lost or shared, and a call whose event is set publishes nothing. -/
theorem renderer_lanes_kept (lanes budget : Nat) {actions : List LaneAction}
    {pool : RendererLanePool} (run : (machine lanes budget).Runs actions pool) :
    LaneRules lanes actions pool ∧ PublishesActive lanes budget actions :=
  ⟨lane_rules (.runs run) (.runs run), publishes_active lanes budget actions⟩

def handoverActions : List LaneAction :=
  [.loop .run, .loop .run, .loop (.acquire 0), .start 0,
    .commit 0 [(py "image", ⟨1, some ⟨true, true, 8, 1⟩, .absent⟩)], .loop (.cancel 0),
    .publish 0, .setEvent 0, .loop (.cancel 0), .endOperation 0, .loop (.finish 0),
    .loop (.acquire 1)]

theorem renderer_lanes_kept_handover :
    ∃ pool, (machine 1 64).Runs handoverActions pool ∧ pool.available = [] ∧
      pool.held 1 = some 0 ∧ pool.visionCache.retainedTensorBytes = 8 ∧
        LaneRules 1 handoverActions pool ∧ PublishesActive 1 64 handoverActions := by
  have run : (machine 1 64).Runs handoverActions
      (((machine 1 64).perform (initial 1) handoverActions).get rfl) := rfl
  have rules := renderer_lanes_kept 1 64 run
  exact ⟨_, run, rfl, rfl, rfl, rules.1, rules.2⟩

end RendererLanePool
end ExQServe.Serving
