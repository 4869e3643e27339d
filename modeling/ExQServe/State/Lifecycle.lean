import ExQServe.Agent.Tools
import ExQServe.Foundation.LinkedStore
import ExQServe.Model.Contracts

/-! # The response lifecycle store

The model of `state/response_lifecycle.py`. A response is a JSON object. Every
method runs under one lock; readings of the clock have an arbitrary type, as in the
response store. An active response is an object that a prepared cancellation may
still hold after it has left the table: its number is its identity. -/

namespace ExQServe

namespace JsonObject

open ExQServe.Search

def set (entries : JsonObject) (key : PyStr) (value : JsonValue) : JsonObject :=
  if key ∈ JsonObject.keys entries then
    entries.map fun entry => if entry.1 = key then (key, value) else entry
  else entries ++ [(key, value)]

def holds (entries : JsonObject) (key text : PyStr) : Bool :=
  match JsonObject.get? entries key with
  | some (.str found) => found = text
  | _ => false

end JsonObject

namespace State

open ExQServe.Search ExQServe.Model Forest

/-! ## Responses -/

inductive LifecycleFailure
  | valueError (message : String)
  | typeError (message : String)
  | runtimeError (message : String)
  | notFound (responseId : PyStr)
  | notCancellable (responseId : PyStr)
  | retentionRefused (responseId : PyStr)
deriving DecidableEq

/-- `_response_id`. -/
def wireResponseId (response : JsonObject) : Except LifecycleFailure PyStr :=
  match JsonObject.get? response (py "id") with
  | some (.str responseId) =>
      if NonBlank responseId then .ok responseId
      else .error (.valueError "response resource must contain a non-empty id")
  | _ => .error (.valueError "response resource must contain a non-empty id")

def estimateWireBytes (response : JsonObject) : Except LifecycleFailure Nat :=
  match canonicalUtf8JsonDumps (.dict response) with
  | some encoded => .ok (PyStr.utf8Length encoded)
  | none => .error (.typeError "response resource must be JSON serializable")

/-- `response.get("previous_response_id")`, where `None` may be written as `null`. -/
def previousResponse (response : JsonObject) : Option JsonValue :=
  match JsonObject.get? response (py "previous_response_id") with
  | some .null => none
  | previous => previous

def previousId (response : JsonObject) : Option PyStr :=
  match previousResponse response with
  | some (.str parentId) => some parentId
  | _ => none

/-! ## States -/

structure ActiveResponse (σ : Type) where
  number : Nat
  response : JsonObject
  session : σ
  retain : Bool

structure PreparedResponseCancellation (σ : Type) where
  responseId : PyStr
  active : ActiveResponse σ
  cancelled : JsonObject

structure RetainedResponse (τ : Type) where
  response : JsonObject
  estimatedBytes : Nat
  expiresAt : τ

structure ResponseLifecycleStats where
  active : Nat
  retained : Nat
  estimatedBytes : Int
deriving DecidableEq, Repr

def retainedLinkage (τ : Type) : Linkage PyStr (RetainedResponse τ) τ where
  parent := fun retained => previousId retained.response
  bytes := RetainedResponse.estimatedBytes
  expiresAt := RetainedResponse.expiresAt
  renew := fun expiry retained => { retained with expiresAt := expiry }
  parent_renew := fun _ _ => rfl
  bytes_renew := fun _ _ => rfl

structure LifecycleConfig (τ : Type) where
  maxRecords : Nat
  ttlSeconds : τ
  maxTotalBytes : Nat
  maxRecordsPositive : 0 < maxRecords
  maxTotalBytesPositive : 0 < maxTotalBytes

/-- `_retained`, `_children`, `_pins` and `_estimated_bytes`. -/
abbrev RetainedResponses (τ : Type) := LinkedStore PyStr (RetainedResponse τ)

/-- `terminals` holds the `terminal_response` of active responses by their numbers. -/
structure InMemoryResponseLifecycleStore (σ τ : Type) where
  active : Dict PyStr (ActiveResponse σ)
  retained : RetainedResponses τ
  terminals : Dict Nat JsonObject
  nextNumber : Nat

namespace RetainedResponses

variable {τ : Type}

/-! ## Methods that hold the lock -/

def removeRetainedOneLocked (store : RetainedResponses τ) (responseId : PyStr) :
    RetainedResponses τ :=
  store.removeOne (retainedLinkage τ) responseId

def subtreeIdsLocked (store : RetainedResponses τ) (responseId : PyStr) : List PyStr :=
  store.subtree (fun current => decide (current ∈ store.records.keys)) responseId

def removeSubtreeLocked (store : RetainedResponses τ) (responseId : PyStr) :
    List PyStr × RetainedResponses τ :=
  let subtree := store.subtreeIdsLocked responseId
  (subtree, subtree.reverse.foldl removeRetainedOneLocked store)

def replaceRetainedLocked (store : RetainedResponses τ) (responseId : PyStr)
    (retained : RetainedResponse τ) : RetainedResponses τ :=
  (store.displace (retainedLinkage τ) responseId).place (retainedLinkage τ) responseId retained

/-- The loop over previous responses in `_retained_ancestor_ids_locked` and in
`pin_chain`, whose first id is not blank. -/
def climbRetained (store : RetainedResponses τ) :
    Nat → List PyStr → Option JsonValue → Option (List PyStr)
  | _, seen, none => some seen
  | fuel + 1, seen, some (.str current) =>
      if current = [] ∨ current ∈ seen then none
      else
        match store.records.get? current with
        | none => none
        | some parent =>
            climbRetained store fuel (seen ++ [current]) (previousResponse parent.response)
  | _, _, some _ => none

def retainedAncestorIdsLocked (store : RetainedResponses τ) (responseId : PyStr)
    (response : JsonObject) : Option (List PyStr) :=
  (store.climbRetained (store.records.size + 1) [] (previousResponse response)).map
    (responseId :: ·)

structure Projection where
  victims : List PyStr
  victimIds : List PyStr
  records : Int
  bytes : Int

namespace Projection

def fits (config : LifecycleConfig τ) (projection : Projection) : Prop :=
  projection.records ≤ config.maxRecords ∧ projection.bytes ≤ config.maxTotalBytes

instance (config : LifecycleConfig τ) (projection : Projection) :
    Decidable (projection.fits config) :=
  inferInstanceAs (Decidable (_ ∧ _))

def add (store : RetainedResponses τ) (projection : Projection) (current : PyStr) : Projection :=
  if current ∈ projection.victimIds then projection
  else
    match store.records.get? current with
    | none => projection
    | some retained =>
        { projection with
          victimIds := projection.victimIds ++ [current]
          records := projection.records - 1
          bytes := projection.bytes - retained.estimatedBytes }

def choose (config : LifecycleConfig τ) (store : RetainedResponses τ) (shielded : List PyStr) :
    List PyStr → Projection → Projection
  | [], projection => projection
  | candidate :: candidates, projection =>
      if projection.fits config then projection
      else if candidate ∈ projection.victimIds then
        choose config store shielded candidates projection
      else
        let subtree := store.subtreeIdsLocked candidate
        if ∃ current ∈ subtree, current ∈ shielded ∨ 0 < store.pinCount current then
          choose config store shielded candidates projection
        else
          choose config store shielded candidates
            (subtree.foldl (add store)
              { projection with victims := projection.victims ++ [candidate] })

end Projection

def projected (store : RetainedResponses τ) (responseId : PyStr) (estimatedBytes : Nat) :
    Projection :=
  let existing := store.records.get? responseId
  { victims := []
    victimIds := []
    records := store.records.size + if existing.isSome then 0 else 1
    bytes := store.estimatedBytes + estimatedBytes -
      ((existing.map fun retained => (retained.estimatedBytes : Int)).getD 0) }

/-- `none` where the response cannot be retained. -/
def retentionVictimsLocked (config : LifecycleConfig τ) (store : RetainedResponses τ)
    (response : JsonObject) (estimatedBytes : Nat) :
      Except LifecycleFailure (Option (List PyStr)) :=
  if config.maxTotalBytes < estimatedBytes then .ok none
  else
    match wireResponseId response with
    | .error failure => .error failure
    | .ok responseId =>
        match store.retainedAncestorIdsLocked responseId response with
        | none => .ok none
        | some shielded =>
            let chosen := (store.projected responseId estimatedBytes).choose config store shielded
              store.records.keys
            if chosen.fits config then .ok (some chosen.victims) else .ok none

def evictVictim (state : List PyStr × RetainedResponses τ) (victim : PyStr) :
    List PyStr × RetainedResponses τ :=
  let removed := state.2.removeSubtreeLocked victim
  (state.1 ++ removed.1.filter (· ∉ state.1), removed.2)

def evictVictims (store : RetainedResponses τ) (victims : List PyStr) :
    List PyStr × RetainedResponses τ :=
  victims.foldl evictVictim ([], store)

def sortIds (ids : List PyStr) : List PyStr :=
  (Json.sortByKey (ids.map fun responseId => (responseId, ()))).map Prod.fst

def purgeExpiredLocked [LE τ] [DecidableLE τ] (store : RetainedResponses τ) (now : τ) :
    RetainedResponses τ :=
  let expired := (store.records.entries.filter fun entry => entry.2.expiresAt ≤ now).map Prod.fst
  expired.foldl (fun store responseId =>
    if responseId ∉ store.records.keys then store
    else if ∃ current ∈ store.subtreeIdsLocked responseId, 0 < store.pinCount current then store
    else (store.removeSubtreeLocked responseId).2) store

variable [Add τ]

def retainLocked (config : LifecycleConfig τ) (now : τ) (store : RetainedResponses τ)
    (response : JsonObject) :
    Except LifecycleFailure (Option (List PyStr × RetainedResponses τ)) := do
  let responseId ← wireResponseId response
  let estimatedBytes ← estimateWireBytes response
  match ← retentionVictimsLocked config store response estimatedBytes with
  | none => return none
  | some victims =>
      let (evicted, kept) := store.evictVictims victims
      return some (sortIds evicted, kept.replaceRetainedLocked responseId
        ⟨response, estimatedBytes, now + config.ttlSeconds⟩)

end RetainedResponses

namespace InMemoryResponseLifecycleStore

variable {σ τ : Type}

abbrev Outcome (σ τ α : Type) :=
  Except LifecycleFailure α × InMemoryResponseLifecycleStore σ τ

def empty : InMemoryResponseLifecycleStore σ τ := ⟨Dict.empty, LinkedStore.empty, Dict.empty, 0⟩

def purgeExpiredLocked [LE τ] [DecidableLE τ] (store : InMemoryResponseLifecycleStore σ τ)
    (now : τ) : InMemoryResponseLifecycleStore σ τ :=
  { store with retained := store.retained.purgeExpiredLocked now }

def settle (store : InMemoryResponseLifecycleStore σ τ) (responseId : PyStr)
    (active : ActiveResponse σ) (response : JsonObject) : InMemoryResponseLifecycleStore σ τ :=
  { store with
    active := store.active.erase responseId
    terminals := store.terminals.set active.number response }

def blankId : LifecycleFailure := .valueError "response_id must be a non-empty string"

/-! ## Calls -/

section Calls

variable [Add τ] [LE τ] [DecidableLE τ]

def pinChain (config : LifecycleConfig τ) (now : τ) (store : InMemoryResponseLifecycleStore σ τ)
    (responseId : PyStr) : Outcome σ τ (Option (List PyStr)) :=
  if ¬NonBlank responseId then (.error blankId, store)
  else
    let store := store.purgeExpiredLocked now
    match store.retained.climbRetained (store.retained.records.size + 1) []
        (some (.str responseId)) with
    | none => (.ok none, store)
    | some chain =>
        (.ok (some chain), { store with
          retained := store.retained.pinAll (retainedLinkage τ) (now + config.ttlSeconds) chain })

def unpinChain (store : InMemoryResponseLifecycleStore σ τ) (responseIds : List PyStr) :
    InMemoryResponseLifecycleStore σ τ :=
  { store with retained := store.retained.unpinAll responseIds }

def canRetain (config : LifecycleConfig τ) (now : τ) (store : InMemoryResponseLifecycleStore σ τ)
    (response : JsonObject) : Outcome σ τ Bool :=
  match estimateWireBytes response with
  | .error failure => (.error failure, store)
  | .ok estimatedBytes =>
      let store := store.purgeExpiredLocked now
      ((RetainedResponses.retentionVictimsLocked config store.retained response estimatedBytes).map
        Option.isSome, store)

def registerActive (now : τ) (store : InMemoryResponseLifecycleStore σ τ) (response : JsonObject)
    (session : σ) (retain : Bool) : Outcome σ τ Unit :=
  match wireResponseId response with
  | .error failure => (.error failure, store)
  | .ok responseId =>
      let store := store.purgeExpiredLocked now
      if responseId ∈ store.active.keys then
        (.error (.runtimeError "response id is already active"), store)
      else
        (.ok (), { store with
          active := store.active.set responseId ⟨store.nextNumber, response, session, retain⟩
          nextNumber := store.nextNumber + 1 })

def updateActive (store : InMemoryResponseLifecycleStore σ τ) (responseId : PyStr)
    (response : JsonObject) : InMemoryResponseLifecycleStore σ τ :=
  { store with active := store.active.mapAt responseId fun active => { active with response } }

def finishWithEvictions (config : LifecycleConfig τ) (now : τ)
    (store : InMemoryResponseLifecycleStore σ τ) (responseId : PyStr) (response : JsonObject) :
    Outcome σ τ (Bool × List PyStr) :=
  let store := store.purgeExpiredLocked now
  match store.active.get? responseId with
  | some active =>
      if active.retain then
        match store.retained.retainLocked config now response with
        | .error failure => (.error failure, store)
        | .ok none => (.ok (false, []), store.settle responseId active response)
        | .ok (some (evicted, retained)) =>
            (.ok (true, evicted), { store with retained }.settle responseId active response)
      else (.ok (true, []), store.settle responseId active response)
  | none =>
      match store.retained.records.get? responseId with
      | none => (.ok (true, []), store)
      | some retained =>
          if JsonObject.holds retained.response (py "status") (py "cancelled") ∧
              JsonObject.holds response (py "status") (py "cancelled") then
            match store.retained.retainLocked config now response with
            | .error failure => (.error failure, store)
            | .ok none => (.ok (false, []), store)
            | .ok (some (evicted, retained)) => (.ok (true, evicted), { store with retained })
          else (.ok (true, []), store)

def abandon (store : InMemoryResponseLifecycleStore σ τ) (responseId : PyStr) :
    InMemoryResponseLifecycleStore σ τ :=
  { store with active := store.active.erase responseId }

def discard (store : InMemoryResponseLifecycleStore σ τ) (responseId : PyStr) :
    Outcome σ τ Unit :=
  if ¬NonBlank responseId then (.error blankId, store)
  else
    (.ok (), { store.abandon responseId with
      retained := (store.retained.removeSubtreeLocked responseId).2 })

def retrieve (config : LifecycleConfig τ) (now : τ) (store : InMemoryResponseLifecycleStore σ τ)
    (responseId : PyStr) : Outcome σ τ (Option JsonObject) :=
  if ¬NonBlank responseId then (.error blankId, store)
  else
    let store := store.purgeExpiredLocked now
    match (store.active.get? responseId).filter ActiveResponse.retain with
    | some active => (.ok (some active.response), store)
    | none =>
        match store.retained.records.get? responseId with
        | none => (.ok none, store)
        | some retained =>
            (.ok (some retained.response), { store with
              retained := store.retained.touch (retainedLinkage τ) (now + config.ttlSeconds)
                responseId })

def prepareCancel (now : τ) (store : InMemoryResponseLifecycleStore σ τ) (responseId : PyStr) :
    Outcome σ τ (PreparedResponseCancellation σ × Bool) :=
  if ¬NonBlank responseId then (.error blankId, store)
  else
    let store := store.purgeExpiredLocked now
    match store.active.get? responseId with
    | none =>
        if responseId ∈ store.retained.records.keys then
          (.error (.notCancellable responseId), store)
        else (.error (.notFound responseId), store)
    | some active =>
        let cancelled := (((active.response.set (py "status") (.str (py "cancelled"))).set
          (py "error") .null).set (py "incomplete_details") .null)
        (.ok (⟨responseId, active, cancelled⟩, active.retain), store)

def commitPreparedCancelWithEvictions (config : LifecycleConfig τ) (now : τ)
    (store : InMemoryResponseLifecycleStore σ τ) (prepared : PreparedResponseCancellation σ) :
    Outcome σ τ (JsonObject × List PyStr) :=
  let responseId := prepared.responseId
  let active := prepared.active
  let cancelled := prepared.cancelled
  if (store.active.get? responseId).map ActiveResponse.number = some active.number then
    let store := store.abandon responseId
    if active.retain then
      match store.retained.retainLocked config now cancelled with
      | .error failure => (.error failure, store)
      | .ok none =>
          (.error (.retentionRefused responseId), store.settle responseId active cancelled)
      | .ok (some (evicted, retained)) => (.ok (cancelled, evicted), { store with retained })
    else (.ok (cancelled, []), store)
  else
    match store.terminals.get? active.number with
    | some terminal => (.ok (terminal, []), store)
    | none => (.ok (cancelled, []), store)

def stats (now : τ) (store : InMemoryResponseLifecycleStore σ τ) :
    Outcome σ τ ResponseLifecycleStats :=
  let store := store.purgeExpiredLocked now
  (.ok ⟨store.active.size, store.retained.records.size, store.retained.estimatedBytes⟩, store)

end Calls

end InMemoryResponseLifecycleStore

/-! ## Runs -/

inductive LifecycleCall (σ : Type)
  | pinChain (responseId : PyStr)
  | unpinChain (responseIds : List PyStr)
  | canRetain (response : JsonObject)
  | registerActive (response : JsonObject) (session : σ) (retain : Bool)
  | updateActive (responseId : PyStr) (response : JsonObject)
  | finish (responseId : PyStr) (response : JsonObject)
  | abandon (responseId : PyStr)
  | discard (responseId : PyStr)
  | retrieve (responseId : PyStr)
  | prepareCancel (responseId : PyStr)
  | commitPreparedCancel (prepared : PreparedResponseCancellation σ)
  | stats

variable {σ τ : Type} [Add τ] [LE τ] [DecidableLE τ]

def LifecycleCall.run (config : LifecycleConfig τ) (now : τ)
    (store : InMemoryResponseLifecycleStore σ τ) :
    LifecycleCall σ → InMemoryResponseLifecycleStore σ τ
  | .pinChain responseId => (store.pinChain config now responseId).2
  | .unpinChain responseIds => store.unpinChain responseIds
  | .canRetain response => (store.canRetain config now response).2
  | .registerActive response session retain =>
      (store.registerActive now response session retain).2
  | .updateActive responseId response => store.updateActive responseId response
  | .finish responseId response => (store.finishWithEvictions config now responseId response).2
  | .abandon responseId => store.abandon responseId
  | .discard responseId => (store.discard responseId).2
  | .retrieve responseId => (store.retrieve config now responseId).2
  | .prepareCancel responseId => (store.prepareCancel now responseId).2
  | .commitPreparedCancel prepared =>
      (store.commitPreparedCancelWithEvictions config now prepared).2
  | .stats => (store.stats now).2

/-- A response that is retained under an id already keeps the previous response it names. -/
def KeepsPrevious (retained : RetainedResponses τ) (response : JsonObject) : Prop :=
  ∀ responseId, wireResponseId response = .ok responseId →
    ∀ kept, retained.records.get? responseId = some kept →
      previousId response = previousId kept.response

def LifecycleCall.Keeps (now : τ) (store : InMemoryResponseLifecycleStore σ τ) :
    LifecycleCall σ → Prop
  | .finish _ response => KeepsPrevious (store.retained.purgeExpiredLocked now) response
  | .commitPreparedCancel prepared => KeepsPrevious store.retained prepared.cancelled
  | _ => True

/-- The states of the runs in which no retained response changes its previous response. -/
inductive LifecycleReachable (config : LifecycleConfig τ) :
    InMemoryResponseLifecycleStore σ τ → Prop
  | initial : LifecycleReachable config InMemoryResponseLifecycleStore.empty
  | step {store : InMemoryResponseLifecycleStore σ τ} (reached : LifecycleReachable config store)
      (now : τ) (call : LifecycleCall σ) (keeps : call.Keeps now store) :
      LifecycleReachable config (call.run config now store)

end State
end ExQServe
