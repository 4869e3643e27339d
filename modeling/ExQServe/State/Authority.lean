import ExQServe.Foundation.Tasks
import ExQServe.State.Lifecycle
import ExQServe.State.Store

/-! # The response authority

The model of `state/response_authority.py` over the two stores in memory. A method is a
coroutine; a call of a store is one block. A part that runs in a task of its own behind a
shield is not interrupted, and a cancellation that arrives meanwhile is raised at its end. -/

namespace ExQServe.State

open ExQServe.Model

/-! ## State -/

/-- A transition lock by its holder, and the `users`, which the source only counts. -/
structure ResponseTransition where
  holder : Option Nat
  users : List Nat
deriving DecidableEq

inductive DropCause
  | registered
  | abandoned
  | discarded
  | inconsistent
deriving DecidableEq, Repr

/-- What the calls have done, in order; a decision has the number of its call. The source
keeps no such record. -/
inductive AuthorityEntry
  | staged (record : ResponseRecord)
  | committed (record : ResponseRecord)
  | decided (thread : Nat) (responseId : PyStr) (response : JsonObject)
  | dropped (responseId : PyStr) (cause : DropCause)

structure ResponseStateAuthority (σ τ : Type) where
  stateStore : InMemoryResponseStore τ
  lifecycleStore : InMemoryResponseLifecycleStore σ τ
  pendingRecords : Dict PyStr ResponseRecord
  terminalWinners : Dict PyStr JsonObject
  continuationPins : Dict PyStr (List PyStr × List PyStr)
  transitions : Dict PyStr ResponseTransition
  retainedCommit : Option Nat
  journal : List AuthorityEntry

structure AuthorityConfig (τ : Type) where
  state : StoreConfig τ
  lifecycle : LifecycleConfig τ

/-- What a block finds outside the authority: a reading of the clock, whether the task is
cancelled at this await, and whether the session's `cancel` raises. -/
structure AuthorityOutside (τ : Type) where
  now : τ
  cancelled : Bool
  raises : Bool

inductive AuthorityFailure
  | store (failure : StoreFailure)
  | lifecycle (failure : LifecycleFailure)
  | notFound (responseId : PyStr)
  | modelMismatch (responseId : PyStr)
  | valueError (message : String)
  | runtimeError (message : String)
  | sessionRaised
  | cancelled
deriving DecidableEq

inductive AuthorityCall (σ : Type)
  | get (responseId : PyStr)
  | materialize (responseId : PyStr)
  | pinChain (responseId : PyStr)
  | unpinChain (responseIds : List PyStr)
  | put (record : ResponseRecord)
  | discard (responseId : PyStr)
  | registerActive (response : JsonObject) (session : σ) (retain : Bool)
  | updateActive (responseId : PyStr) (response : JsonObject)
  | finish (responseId : PyStr) (response : JsonObject)
  | isTerminal (responseId : PyStr)
  | abandon (responseId : PyStr)
  | retrieve (responseId : PyStr)
  | cancel (responseId : PyStr)
  | resolvePrevious (responseId : Option PyStr) (model : PyStr) (pinOwner : Option PyStr)
  | releaseContinuation (ownerId : PyStr)

inductive AuthorityReply
  | record (record : Option ResponseRecord)
  | items (items : Option (List CanonicalItem))
  | pinned (responseIds : Option (List PyStr))
  | stored (disposition : ResponseStoreDisposition)
  | finished (responseId : PyStr) (committed : Bool) (response : JsonObject)
  | terminal (isTerminal : Bool)
  | retrieved (response : Option JsonObject)
  | cancelled (responseId : PyStr) (response : JsonObject)
  | resolved (responseId : Option PyStr) (model : PyStr) (items : List CanonicalItem)
  | done

abbrev AuthorityTask (σ τ α : Type) : Type :=
  Coroutine (ResponseStateAuthority σ τ) (AuthorityOutside τ) (AuthorityCall σ) AuthorityFailure α

namespace ResponseStateAuthority

variable {σ τ α : Type}

def initial : ResponseStateAuthority σ τ :=
  ⟨LinkedStore.empty, .empty, Dict.empty, Dict.empty, Dict.empty, Dict.empty, none, []⟩

def record (authority : ResponseStateAuthority σ τ) (entry : AuthorityEntry) :
    ResponseStateAuthority σ τ :=
  { authority with journal := authority.journal ++ [entry] }

/-! ## Locks -/

def transitionOf (authority : ResponseStateAuthority σ τ) (responseId : PyStr) :
    ResponseTransition :=
  (authority.transitions.get? responseId).getD ⟨none, []⟩

def holderOf (authority : ResponseStateAuthority σ τ) (responseId : PyStr) : Option Nat :=
  (authority.transitionOf responseId).holder

def usersOf (authority : ResponseStateAuthority σ τ) (responseId : PyStr) : List Nat :=
  (authority.transitionOf responseId).users

def setTransition (authority : ResponseStateAuthority σ τ) (responseId : PyStr)
    (transition : ResponseTransition) : ResponseStateAuthority σ τ :=
  { authority with transitions := authority.transitions.set responseId transition }

def enter (thread : Nat) (responseId : PyStr) (authority : ResponseStateAuthority σ τ) :
    ResponseStateAuthority σ τ :=
  let transition := authority.transitionOf responseId
  authority.setTransition responseId { transition with users := transition.users ++ [thread] }

def setHolder (holder : Option Nat) (responseId : PyStr) (authority : ResponseStateAuthority σ τ) :
    ResponseStateAuthority σ τ :=
  authority.setTransition responseId { authority.transitionOf responseId with holder }

def leave (thread : Nat) (responseId : PyStr) (authority : ResponseStateAuthority σ τ) :
    ResponseStateAuthority σ τ :=
  let transition := authority.transitionOf responseId
  let users := transition.users.erase thread
  if users = [] then { authority with transitions := authority.transitions.erase responseId }
  else authority.setTransition responseId { transition with users }

end ResponseStateAuthority

namespace AuthorityTask

open ResponseStateAuthority

variable {σ τ α : Type}

def step (run : ResponseStateAuthority σ τ → α × ResponseStateAuthority σ τ) :
    AuthorityTask σ τ α :=
  Coroutine.atomically fun authority _ => (.ok (run authority).1, (run authority).2)

def change (run : ResponseStateAuthority σ τ → ResponseStateAuthority σ τ) :
    AuthorityTask σ τ Unit :=
  step fun authority => ((), run authority)

def interruptible : AuthorityTask σ τ Unit :=
  Coroutine.atomically fun authority outside =>
    (if outside.cancelled then .error .cancelled else .ok (), authority)

def shielded (part : AuthorityTask σ τ α) : AuthorityTask σ τ α := do
  let result ← part
  interruptible
  return result

/-- `asyncio.Lock` as a context, for the lock of one response. -/
def holding (thread : Nat) (responseId : PyStr) (body : AuthorityTask σ τ α) :
    AuthorityTask σ τ α := do
  interruptible
  Coroutine.when (fun authority => authority.holderOf responseId = none) fun authority _ =>
    (.ok (), authority.setHolder (some thread) responseId)
  Coroutine.ensuring body (change (setHolder none responseId))

def transition (thread : Nat) (responseId : PyStr) (body : AuthorityTask σ τ α) :
    AuthorityTask σ τ α := do
  change (enter thread responseId)
  Coroutine.ensuring (holding thread responseId body) (change (leave thread responseId))

/-- `async with self._retained_commit_lock`; behind a shield nothing cancels the wait. -/
def committing (thread : Nat) (shield : Bool) (body : AuthorityTask σ τ α) :
    AuthorityTask σ τ α := do
  if shield then pure () else interruptible
  Coroutine.when (fun authority => authority.retainedCommit = none) fun authority _ =>
    (.ok (), { authority with retainedCommit := some thread })
  Coroutine.ensuring body (change fun authority => { authority with retainedCommit := none })

def stateCall (shield : Bool)
    (call : τ → InMemoryResponseStore τ → Except StoreFailure α × InMemoryResponseStore τ) :
    AuthorityTask σ τ α :=
  Coroutine.atomically fun authority outside =>
    if outside.cancelled && !shield then (.error .cancelled, authority)
    else
      let (result, stateStore) := call outside.now authority.stateStore
      (result.mapError .store, { authority with stateStore })

def lifecycleCall (shield : Bool)
    (call : τ → InMemoryResponseLifecycleStore σ τ →
      Except LifecycleFailure α × InMemoryResponseLifecycleStore σ τ) :
    AuthorityTask σ τ α :=
  Coroutine.atomically fun authority outside =>
    if outside.cancelled && !shield then (.error .cancelled, authority)
    else
      let (result, lifecycleStore) := call outside.now authority.lifecycleStore
      (result.mapError .lifecycle, { authority with lifecycleStore })

def forEach {β : Type} (values : List β) (body : β → AuthorityTask σ τ Unit) :
    AuthorityTask σ τ Unit :=
  match values with
  | [] => pure ()
  | value :: values => do
      body value
      forEach values body

end AuthorityTask

namespace ResponseStateAuthority

open AuthorityTask

variable {σ τ : Type} [Add τ] [LE τ] [DecidableLE τ] (config : AuthorityConfig τ)

/-! ## Parts of the methods -/

def discardState (shield : Bool) (responseId : PyStr) : AuthorityTask σ τ Unit :=
  stateCall shield fun now store => store.discard now responseId

def discardLifecycle (shield : Bool) (responseId : PyStr) : AuthorityTask σ τ Unit :=
  lifecycleCall shield fun _ store => store.discard responseId

def popPending (responseId : PyStr) : AuthorityTask σ τ Unit :=
  change fun authority =>
    { authority with pendingRecords := authority.pendingRecords.erase responseId }

def dropWinner (responseId : PyStr) (cause : DropCause) : AuthorityTask σ τ Unit :=
  change fun authority =>
    ({ authority with
      terminalWinners := authority.terminalWinners.erase responseId }).record
        (.dropped responseId cause)

def setWinner (thread : Nat) (responseId : PyStr) (response : JsonObject) :
    AuthorityTask σ τ Unit :=
  change fun authority =>
    ({ authority with
      terminalWinners := authority.terminalWinners.set responseId response }).record
        (.decided thread responseId response)

def standingWinner (thread : Nat) (responseId : PyStr) : AuthorityTask σ τ (Option JsonObject) :=
  step fun authority =>
    match authority.terminalWinners.get? responseId with
    | none => (none, authority)
    | some winner => (some winner, authority.record (.decided thread responseId winner))

/-- `_unpin_chains_cancellation_safe` -/
def unpinChains (stateIds lifecycleIds : List PyStr) : AuthorityTask σ τ Unit :=
  shielded do
    stateCall true fun _ store => (.ok (), store.unpinChain stateIds)
    lifecycleCall true fun _ store => (.ok (), store.unpinChain lifecycleIds)

def releaseContinuationPins (ownerId : PyStr) : AuthorityTask σ τ Unit := do
  let pins ← step fun authority => (authority.continuationPins.get? ownerId,
    { authority with continuationPins := authority.continuationPins.erase ownerId })
  match pins with
  | none => pure ()
  | some (stateIds, lifecycleIds) => unpinChains stateIds lifecycleIds

/-- `_pin_continuation` of an owner without pins: both chains, or neither. -/
def pinChains (ownerId responseId : PyStr) : AuthorityTask σ τ Bool := do
  match ← lifecycleCall false fun now store =>
      store.pinChain config.lifecycle now responseId with
  | none => return false
  | some lifecycleIds =>
      let stateIds ← tryCatch
        (stateCall false fun now store => store.pinChain config.state now responseId)
        fun failure => do
          unpinChains [] lifecycleIds
          throw failure
      match stateIds with
      | none =>
          unpinChains [] lifecycleIds
          return false
      | some stateIds =>
          change fun authority => { authority with
            continuationPins :=
              authority.continuationPins.set ownerId (stateIds, lifecycleIds) }
          return true

def pinContinuation (thread : Nat) (ownerId responseId : PyStr) : AuthorityTask σ τ Bool :=
  committing thread false do
    let owned ← step fun authority =>
      ((authority.continuationPins.get? ownerId).isSome, authority)
    if owned then
      throw (.runtimeError "continuation owner already holds a parent-chain pin")
    pinChains config ownerId responseId

def discardDescendants (shield : Bool) (descendants : List PyStr) : AuthorityTask σ τ Unit :=
  forEach descendants (discardLifecycle shield)

/-- `response.get("store") is True` -/
def isStored (response : JsonObject) : Bool :=
  match JsonObject.get? response (py "store") with
  | some (.bool stored) => stored
  | _ => false

def isCompleted (response : JsonObject) : Bool :=
  JsonObject.holds response (py "status") (py "completed") && isStored response

/-- The loop of `_retained_chain_is_consistent`. A run of it has finitely many rounds, and a
call that would need more than `rounds` does not come back. -/
def chainRounds (shield : Bool) (responseId model : PyStr) :
    Nat → List PyStr → Option PyStr → AuthorityTask σ τ Bool
  | _, _, none => return true
  | 0, _, some _ => Coroutine.when (fun _ => false) fun authority _ => (.ok false, authority)
  | rounds + 1, descendants, some current => do
      -- Those that were seen are the descendants.
      if current ∈ descendants then
        discardState shield responseId
        discardDescendants shield descendants
        return false
      let record ← stateCall shield fun now store => store.get config.state now current
      match record.filter (·.model = model) with
      | none =>
          discardState shield responseId
          discardDescendants shield descendants
          return false
      | some record =>
          let response ← lifecycleCall shield fun now store =>
            store.retrieve config.lifecycle now current
          match response.filter fun response =>
              isCompleted response && JsonObject.holds response (py "model") model with
          | none =>
              discardState shield current
              discardLifecycle shield current
              discardDescendants shield descendants
              return false
          | some _ =>
              chainRounds shield responseId model rounds (descendants ++ [current])
                record.parentResponseId

variable (rounds : Nat)

def retainedChainIsConsistent (shield : Bool) (responseId model : PyStr) :
    AuthorityTask σ τ Bool :=
  chainRounds config shield responseId model rounds [] (some responseId)

def discardLocked (shield : Bool) (responseId : PyStr) (cause : DropCause) :
    AuthorityTask σ τ Unit := do
  popPending responseId
  dropWinner responseId cause
  discardState shield responseId
  discardLifecycle shield responseId

def synchronizeEvictions (shield : Bool) (stateEvicted lifecycleEvicted : List PyStr) :
    AuthorityTask σ τ Unit := do
  forEach stateEvicted (discardLifecycle shield)
  forEach lifecycleEvicted (discardState shield)

/-- `put_with_evictions` of the staged record. -/
def commitRecord (record : ResponseRecord) :
    AuthorityTask σ τ (ResponseStoreDisposition × List PyStr) :=
  Coroutine.atomically fun authority outside =>
    let (result, stateStore) :=
      authority.stateStore.putWithEvictions config.state outside.now record
    let after := { authority with stateStore }
    match result with
    | .error failure => (.error (.store failure), after)
    | .ok (.stored, evicted) => (.ok (.stored, evicted), after.record (.committed record))
    | .ok refused => (.ok refused, after)

def textOf (response : JsonObject) (key : PyStr) : Option PyStr :=
  match JsonObject.get? response key with
  | some (.str text) => some text
  | _ => none

def completedRecord (responseId : PyStr) (pending : Option ResponseRecord) :
    AuthorityTask σ τ (Option (ResponseRecord × List PyStr)) :=
  match pending with
  | none => do
      match ← stateCall true fun now store => store.get config.state now responseId with
      | none =>
          discardLifecycle true responseId
          return none
      | some record => return some (record, [])
  | some pending => do
      let (disposition, evicted) ← commitRecord config pending
      if disposition ≠ .stored then
        discardLifecycle true responseId
        return none
      return some (pending, evicted)

/-- `_commit_retained_terminal` of a completed response, in front of its winner. -/
def commitCompleted (responseId : PyStr) (response : JsonObject)
    (pending : Option ResponseRecord) : AuthorityTask σ τ Bool := do
  match ← completedRecord config responseId pending with
  | none => return false
  | some (record, stateEvicted) =>
      match (textOf response (py "model")).filter (record.model = ·) with
      | none =>
          discardLocked true responseId .inconsistent
          return false
      | some wireModel =>
          let (finished, lifecycleEvicted) ← lifecycleCall true fun now store =>
            store.finishWithEvictions config.lifecycle now responseId response
          if !finished then
            discardState true responseId
            return false
          synchronizeEvictions true stateEvicted lifecycleEvicted
          if !(← retainedChainIsConsistent config rounds true responseId wireModel) then
            discardLocked true responseId .inconsistent
            return false
          return true

/-- `_commit_retained_terminal` of a response that is not completed, in front of its winner. -/
def commitOther (responseId : PyStr) (response : JsonObject) : AuthorityTask σ τ Bool := do
  discardState true responseId
  let (finished, lifecycleEvicted) ← lifecycleCall true fun now store =>
    store.finishWithEvictions config.lifecycle now responseId response
  if !finished then return false
  synchronizeEvictions true [] lifecycleEvicted
  return true

def commitRetainedTerminal (thread : Nat) (responseId : PyStr) (response : JsonObject)
    (pending : Option ResponseRecord) : AuthorityTask σ τ Bool :=
  committing thread true do
    if !(← lifecycleCall true fun now store =>
        store.canRetain config.lifecycle now response) then
      discardState true responseId
      discardLifecycle true responseId
      return false
    let ready ←
      if JsonObject.holds response (py "status") (py "completed") then
        commitCompleted config rounds responseId response pending
      else commitOther config responseId response
    if !ready then return false
    setWinner thread responseId response
    return true

def isTerminalStatus (response : JsonObject) : Bool :=
  [py "completed", py "incomplete", py "failed", py "cancelled"].any
    (JsonObject.holds response (py "status"))

def commitPreparedCancel (thread : Nat) (responseId : PyStr)
    (prepared : PreparedResponseCancellation σ) : AuthorityTask σ τ JsonObject := do
  let (response, lifecycleEvicted) ← tryCatch
    (lifecycleCall true fun now store =>
      store.commitPreparedCancelWithEvictions config.lifecycle now prepared)
    fun failure => do
      match failure with
      | .lifecycle (.retentionRefused _) =>
          popPending responseId
          discardState true responseId
          throw failure
      | _ => throw failure
  if JsonObject.holds response (py "status") (py "cancelled") then
    popPending responseId
    discardState true responseId
  synchronizeEvictions true [] lifecycleEvicted
  if isTerminalStatus response then
    setWinner thread responseId response
  return response

def cancelSession : AuthorityTask σ τ Unit :=
  Coroutine.atomically fun authority outside =>
    (if outside.raises then .error .sessionRaised else .ok (), authority)

def cancelTerminal (thread : Nat) (responseId : PyStr) : AuthorityTask σ τ JsonObject := do
  let (prepared, retain) ← lifecycleCall true fun now store => store.prepareCancel now responseId
  cancelSession
  if retain then
    committing thread true (commitPreparedCancel config thread responseId prepared)
  else commitPreparedCancel config thread responseId prepared

/-! ## Methods -/

def get (thread : Nat) (responseId : PyStr) : AuthorityTask σ τ AuthorityReply :=
  transition thread responseId do
    return .record (← stateCall false fun now store => store.get config.state now responseId)

def materialize (thread : Nat) (responseId : PyStr) : AuthorityTask σ τ AuthorityReply :=
  transition thread responseId do
    return .items (← stateCall false fun now store =>
      store.materialize config.state now responseId)

def pinChain (thread : Nat) (responseId : PyStr) : AuthorityTask σ τ AuthorityReply :=
  transition thread responseId do
    return .pinned (← stateCall false fun now store =>
      store.pinChain config.state now responseId)

def unpinChain (responseIds : List PyStr) : AuthorityTask σ τ AuthorityReply := do
  stateCall false fun _ store => (.ok (), store.unpinChain responseIds)
  return .done

def put (thread : Nat) (record : ResponseRecord) : AuthorityTask σ τ AuthorityReply :=
  transition thread record.responseId do
    change fun authority =>
      ({ authority with
        pendingRecords := authority.pendingRecords.set record.responseId record }).record
          (.staged record)
    return .stored .stored

def discard (thread : Nat) (responseId : PyStr) : AuthorityTask σ τ AuthorityReply :=
  transition thread responseId do
    discardLocked false responseId .discarded
    return .done

def registerActive (thread : Nat) (response : JsonObject) (session : σ) (retain : Bool) :
    AuthorityTask σ τ AuthorityReply :=
  match wireResponseId response with
  | .error failure => throw (.lifecycle failure)
  | .ok responseId =>
      transition thread responseId do
        dropWinner responseId .registered
        lifecycleCall false fun now store => store.registerActive now response session retain
        return .done

def updateActive (thread : Nat) (responseId : PyStr) (response : JsonObject) :
    AuthorityTask σ τ AuthorityReply :=
  transition thread responseId do
    lifecycleCall false fun _ store => (.ok (), store.updateActive responseId response)
    return .done

def finishOpen (thread : Nat) (responseId : PyStr) (response : JsonObject)
    (pending : Option ResponseRecord) : AuthorityTask σ τ AuthorityReply := do
  if isStored response then
    let committed ← shielded
      (commitRetainedTerminal config rounds thread responseId response pending)
    return .finished responseId committed response
  discardState false responseId
  let (finished, _) ← lifecycleCall false fun now store =>
    store.finishWithEvictions config.lifecycle now responseId response
  if !finished then return .finished responseId false response
  setWinner thread responseId response
  return .finished responseId true response

def finish (thread : Nat) (responseId : PyStr) (response : JsonObject) :
    AuthorityTask σ τ AuthorityReply :=
  Coroutine.ensuring
    (transition thread responseId do
      let pending ← step fun authority => (authority.pendingRecords.get? responseId,
        { authority with pendingRecords := authority.pendingRecords.erase responseId })
      match ← standingWinner thread responseId with
      | some winner => return .finished responseId true winner
      | none => finishOpen config rounds thread responseId response pending)
    (releaseContinuationPins responseId)

def isTerminal (thread : Nat) (responseId : PyStr) : AuthorityTask σ τ AuthorityReply :=
  transition thread responseId do
    return .terminal (← step fun authority =>
      ((authority.terminalWinners.get? responseId).isSome, authority))

def abandon (thread : Nat) (responseId : PyStr) : AuthorityTask σ τ AuthorityReply :=
  Coroutine.ensuring
    (transition thread responseId do
      let established ← step fun authority =>
        ((authority.terminalWinners.get? responseId).isSome, authority)
      if established then
        dropWinner responseId .abandoned
        popPending responseId
      else discardLocked false responseId .abandoned
      return .done)
    (releaseContinuationPins responseId)

def retrieve (thread : Nat) (responseId : PyStr) : AuthorityTask σ τ AuthorityReply :=
  transition thread responseId do
    match ← lifecycleCall false fun now store =>
        store.retrieve config.lifecycle now responseId with
    | none =>
        popPending responseId
        discardState false responseId
        return .retrieved none
    | some response =>
        if isCompleted response then
          let consistent ← match textOf response (py "model") with
            | none => pure false
            | some wireModel => retainedChainIsConsistent config rounds false responseId wireModel
          if !consistent then
            discardLocked false responseId .inconsistent
            return .retrieved none
        return .retrieved (some response)

def cancel (thread : Nat) (responseId : PyStr) : AuthorityTask σ τ AuthorityReply :=
  Coroutine.ensuring
    (transition thread responseId do
      match ← standingWinner thread responseId with
      | some winner => return .cancelled responseId winner
      | none =>
          return .cancelled responseId (← shielded (cancelTerminal config thread responseId)))
    (releaseContinuationPins responseId)

def resolveHeld (responseId model : PyStr) : AuthorityTask σ τ AuthorityReply := do
  match ← lifecycleCall false fun now store =>
      store.retrieve config.lifecycle now responseId with
  | none =>
      popPending responseId
      discardState false responseId
      throw (.notFound responseId)
  | some response =>
      if !isCompleted response then
        throw (.notFound responseId)
      if (textOf response (py "model")).any (· ≠ model) then
        throw (.modelMismatch responseId)
      match ← stateCall false fun now store => store.get config.state now responseId with
      | none =>
          discardLifecycle false responseId
          throw (.notFound responseId)
      | some record =>
          if record.model ≠ model then
            throw (.modelMismatch responseId)
          if !(← retainedChainIsConsistent config rounds false responseId model) then
            throw (.notFound responseId)
          match ← stateCall false fun now store =>
              store.materialize config.state now responseId with
          | none =>
              discardLifecycle false responseId
              throw (.notFound responseId)
          | some items => return .resolved (some responseId) model items

def resolvePrevious (thread : Nat) (responseId : Option PyStr) (model : PyStr)
    (pinOwner : Option PyStr) : AuthorityTask σ τ AuthorityReply :=
  match responseId with
  | none => return .resolved none model []
  | some responseId =>
      match pinOwner with
      | none => transition thread responseId (resolveHeld config rounds responseId model)
      | some owner => do
          if ¬NonBlank owner then
            throw (.valueError "pin_owner must be None or a non-empty string")
          if !(← pinContinuation config thread owner responseId) then
            throw (.notFound responseId)
          tryCatch (transition thread responseId (resolveHeld config rounds responseId model))
            fun failure => do
              releaseContinuationPins owner
              throw failure

def releaseContinuation (ownerId : PyStr) : AuthorityTask σ τ AuthorityReply := do
  releaseContinuationPins ownerId
  return .done

def serve (thread : Nat) : AuthorityCall σ → AuthorityTask σ τ AuthorityReply
  | .get responseId => get config thread responseId
  | .materialize responseId => materialize config thread responseId
  | .pinChain responseId => pinChain config thread responseId
  | .unpinChain responseIds => unpinChain responseIds
  | .put record => put thread record
  | .discard responseId => discard thread responseId
  | .registerActive response session retain => registerActive thread response session retain
  | .updateActive responseId response => updateActive thread responseId response
  | .finish responseId response => finish config rounds thread responseId response
  | .isTerminal responseId => isTerminal thread responseId
  | .abandon responseId => abandon thread responseId
  | .retrieve responseId => retrieve config rounds thread responseId
  | .cancel responseId => cancel config thread responseId
  | .resolvePrevious responseId model pinOwner =>
      resolvePrevious config rounds thread responseId model pinOwner
  | .releaseContinuation ownerId => releaseContinuation ownerId

end ResponseStateAuthority

abbrev AuthorityPool (σ τ : Type) : Type :=
  Pool (ResponseStateAuthority σ τ) (AuthorityOutside τ) (AuthorityCall σ)
    (Except AuthorityFailure AuthorityReply)

abbrev AuthorityReachable {σ τ : Type} [Add τ] [LE τ] [DecidableLE τ] (config : AuthorityConfig τ)
    (rounds : Nat) : AuthorityPool σ τ → Prop :=
  Pool.Reachable (fun thread call => ResponseStateAuthority.serve config rounds thread call)
    .initial

end ExQServe.State
