import ExQServe.Core.Items
import ExQServe.Foundation.LinkedStore

/-! # The response store

The model of `state/store.py`. Every method runs under one lock, so a call is one
step. Readings of the clock come from outside and only `now + ttl_seconds` and
`expires_at <= now` are computed with them, so they have an arbitrary type. -/

namespace ExQServe.State

open ExQServe.Search ExQServe.Model Forest

@[ext] structure ResponseRecord where
  responseId : PyStr
  model : PyStr
  parentResponseId : Option PyStr
  deltaItems : List CanonicalItem
  responseIdNonBlank : NonBlank responseId
  modelNonBlank : NonBlank model
  parentNonBlank : ∀ parent ∈ parentResponseId, NonBlank parent

instance : DecidableEq ResponseRecord := fun _ _ => decidable_of_iff' _ ResponseRecord.ext_iff

inductive ResponseStoreDisposition
  | stored
  | refusedTooLarge
  | refusedMissingParent
  | refusedModelMismatch
  | refusedInvalidGraph
  | refusedBudget
deriving DecidableEq, Repr

structure ResponseStoreStats where
  records : Nat
  estimatedBytes : Int
deriving DecidableEq, Repr

inductive StoreFailure
  | valueError (message : String)
  | unicodeEncode
  | keyError
  | invariant (message : String)
deriving DecidableEq, Repr

/-! ## Estimates -/

/-- The values that a record is made of. A member of a string enumeration is a
string. -/
inductive PyValue
  | none
  | str (text : PyStr)
  | scalar
  | sequence (items : List PyValue)
  | dataclass (fields : List (PyStr × PyValue))

mutual

/-- `_estimate_value_bytes`; `none` where a string has no UTF-8 encoding. -/
def estimateValueBytes : PyValue → Option Nat
  | .none => some 1
  | .str text => if text.utf8Encodable then some text.utf8Length else .none
  | .scalar => some 16
  | .sequence items => (estimateItems items).map (16 + ·)
  | .dataclass fields => (estimateFields fields).map (32 + ·)

def estimateItems : List PyValue → Option Nat
  | [] => some 0
  | item :: items => do
      let first ← estimateValueBytes item
      let rest ← estimateItems items
      return first + rest

def estimateFields : List (PyStr × PyValue) → Option Nat
  | [] => some 0
  | (name, value) :: fields => do
      let first ← estimateValueBytes value
      let rest ← estimateFields fields
      return name.utf8Length + first + rest

end

def optionalStr : Option PyStr → PyValue
  | .none => .none
  | some text => .str text

def partValue : MessageContentPart → PyValue
  | .text part => .dataclass [(py "text", .str part.text)]
  | .image part =>
      .dataclass [(py "source", .str part.source), (py "detail", optionalStr part.detail)]

def itemValue : CanonicalItem → PyValue
  | .message item =>
      .dataclass [(py "role", .str item.role.value), (py "text", .str item.text)]
  | .multimodalMessage item =>
      .dataclass [(py "role", .str item.role.value),
        (py "parts", .sequence (item.parts.map partValue))]
  | .reasoning item =>
      .dataclass [(py "text", .str item.text), (py "starts_new_assistant_segment", .scalar)]
  | .toolCall item =>
      .dataclass [(py "call_id", .str item.callId), (py "name", .str item.name),
        (py "arguments_json", .str item.argumentsJson), (py "index", .scalar)]
  | .toolResult item =>
      .dataclass [(py "call_id", .str item.callId), (py "text", .str item.text),
        (py "is_error", .scalar)]
  | .multimodalToolResult item =>
      .dataclass [(py "call_id", .str item.callId),
        (py "parts", .sequence (item.parts.map partValue)), (py "is_error", .scalar)]

def recordValue (record : ResponseRecord) : PyValue :=
  .dataclass [(py "response_id", .str record.responseId), (py "model", .str record.model),
    (py "parent_response_id", optionalStr record.parentResponseId),
    (py "delta_items", .sequence (record.deltaItems.map itemValue))]

def estimateResponseRecordBytes (record : ResponseRecord) : Option Nat :=
  estimateValueBytes (recordValue record)

/-! ## States -/

structure StoredRecord (τ : Type) where
  record : ResponseRecord
  estimatedBytes : Nat
  expiresAt : τ
deriving DecidableEq

structure StoreConfig (τ : Type) where
  maxRecords : Nat
  ttlSeconds : τ
  maxTotalBytes : Nat
  maxRecordsPositive : 0 < maxRecords
  maxTotalBytesPositive : 0 < maxTotalBytes

/-- `_records`, `_children`, `_pins` and `_estimated_bytes`. -/
abbrev InMemoryResponseStore (τ : Type) := LinkedStore PyStr (StoredRecord τ)

def storedLinkage (τ : Type) : Linkage PyStr (StoredRecord τ) τ where
  parent := fun stored => stored.record.parentResponseId
  bytes := StoredRecord.estimatedBytes
  expiresAt := StoredRecord.expiresAt
  renew := fun expiry stored => { stored with expiresAt := expiry }
  parent_renew := fun _ _ => rfl
  bytes_renew := fun _ _ => rfl

namespace InMemoryResponseStore

variable {τ : Type}

/-! ## Methods that hold the lock -/

def removeOneLocked (store : InMemoryResponseStore τ) (responseId : PyStr) :
    InMemoryResponseStore τ :=
  store.removeOne (storedLinkage τ) responseId

def removeSubtreeLocked (store : InMemoryResponseStore τ) (responseId : PyStr) :
    InMemoryResponseStore τ :=
  (store.subtree (fun _ => true) responseId).reverse.foldl removeOneLocked store

/-- The victim is looked for as long as the budget is exceeded; every round takes a
record out, which bounds the rounds. -/
def evictToBudgetLocked (config : StoreConfig τ) (shielded : List PyStr) :
    Nat → InMemoryResponseStore τ → Bool × InMemoryResponseStore τ
  | 0, store => (true, store)
  | fuel + 1, store =>
      if store.records.size ≠ 0 ∧
          (config.maxRecords < store.records.size ∨
            (config.maxTotalBytes : Int) < store.estimatedBytes) then
        match store.records.keys.find? fun responseId =>
            responseId ∉ shielded ∧ store.pinCount responseId = 0 with
        | none => (false, store)
        | some victim => evictToBudgetLocked config shielded fuel (store.removeSubtreeLocked victim)
      else (true, store)

/-- The records from `current` to its root, as the loops over parents walk them. -/
def walk (store : InMemoryResponseStore τ) (model : PyStr) (seen : List PyStr) (current : PyStr) :
    Except ClimbStop (List (PyStr × StoredRecord τ)) :=
  store.climb (storedLinkage τ) (·.record.model = model) (store.records.size + 1) seen current

def parentChainIsValidLocked (store : InMemoryResponseStore τ) (parentId childId model : PyStr) :
    Bool :=
  (store.walk model [childId] parentId).isOk

variable [Add τ] [LE τ] [DecidableLE τ]

def purgeExpiredLocked (store : InMemoryResponseStore τ) (now : τ) : InMemoryResponseStore τ :=
  let expired := (store.records.entries.filter fun entry =>
    entry.2.expiresAt ≤ now ∧ store.pinCount entry.1 = 0).map Prod.fst
  expired.foldl (fun store responseId =>
    if responseId ∈ store.records.keys then store.removeSubtreeLocked responseId else store) store

def refresh (config : StoreConfig τ) (now : τ) (store : InMemoryResponseStore τ)
    (responseId : PyStr) : InMemoryResponseStore τ :=
  store.touch (storedLinkage τ) (now + config.ttlSeconds) responseId

/-! ## Calls -/

abbrev Outcome (τ α : Type) := Except StoreFailure α × InMemoryResponseStore τ

def blankId : StoreFailure := .valueError "response_id must be a non-empty string"

def get (config : StoreConfig τ) (now : τ) (store : InMemoryResponseStore τ) (responseId : PyStr) :
    Outcome τ (Option ResponseRecord) :=
  if ¬NonBlank responseId then (.error blankId, store)
  else
    let store := store.purgeExpiredLocked now
    match store.records.get? responseId with
    | none => (.ok none, store)
    | some stored => (.ok (some stored.record), store.refresh config now responseId)

def materialize (config : StoreConfig τ) (now : τ) (store : InMemoryResponseStore τ)
    (responseId : PyStr) : Outcome τ (Option (List CanonicalItem)) :=
  if ¬NonBlank responseId then (.error blankId, store)
  else
    let store := store.purgeExpiredLocked now
    match store.records.get? responseId with
    | none => (.ok none, store)
    | some first =>
        match store.walk first.record.model [] responseId with
        | .error .cycle => (.error (.invariant "response parent chain contains a cycle"), store)
        | .error .missing => (.ok none, store.removeSubtreeLocked responseId)
        | .error .refused =>
            (.error (.invariant "response parent chain crosses model identity"), store)
        | .ok chain =>
            (.ok (some (chain.reverse.flatMap fun entry => entry.2.record.deltaItems)),
              chain.reverse.foldl
                (fun store entry => store.refresh config now entry.2.record.responseId) store)

/-- The record, its parent and the ancestors; the walk ends because the chain was
checked. -/
def protectedIds (store : InMemoryResponseStore τ) (record : ResponseRecord) :
    Except StoreFailure (List PyStr) :=
  match record.parentResponseId with
  | none => .ok [record.responseId]
  | some parentId =>
      match store.climb (storedLinkage τ) (fun _ => true) (store.records.size + 1) [] parentId with
      | .error _ => .error .keyError
      | .ok chain => .ok (record.responseId :: chain.map Prod.fst)

def refusal (config : StoreConfig τ) (store : InMemoryResponseStore τ) (record : ResponseRecord)
    (estimatedBytes : Nat) : Option ResponseStoreDisposition :=
  if config.maxTotalBytes < estimatedBytes then some .refusedTooLarge
  else
    match record.parentResponseId with
    | none => none
    | some parentId =>
        match store.records.get? parentId with
        | none => some .refusedMissingParent
        | some parent =>
            if parent.record.model ≠ record.model then some .refusedModelMismatch
            else if ¬store.parentChainIsValidLocked parentId record.responseId record.model then
              some .refusedInvalidGraph
            else none

def replace (config : StoreConfig τ) (now : τ) (store : InMemoryResponseStore τ)
    (record : ResponseRecord) (estimatedBytes : Nat) : InMemoryResponseStore τ :=
  let cleared :=
    if record.responseId ∈ store.records.keys then store.removeSubtreeLocked record.responseId
    else store
  cleared.place (storedLinkage τ) record.responseId
    ⟨record, estimatedBytes, now + config.ttlSeconds⟩

def putWithEvictions (config : StoreConfig τ) (now : τ) (store : InMemoryResponseStore τ)
    (record : ResponseRecord) : Outcome τ (ResponseStoreDisposition × List PyStr) :=
  match estimateResponseRecordBytes record with
  | none => (.error .unicodeEncode, store)
  | some estimatedBytes =>
      let before := store.purgeExpiredLocked now
      match refusal config before record estimatedBytes with
      | some disposition => (.ok (disposition, []), before)
      | none =>
          match before.protectedIds record with
          | .error failure => (.error failure, before)
          | .ok shielded =>
              let placed := before.replace config now record estimatedBytes
              match evictToBudgetLocked config shielded (placed.records.size + 1) placed with
              | (false, evicted) =>
                  -- The pins are not among what is put back.
                  (.ok (.refusedBudget, []), { evicted with
                    records := before.records
                    children := before.children
                    estimatedBytes := before.estimatedBytes })
              | (true, after) =>
                  (.ok (.stored, before.records.keys.filter fun responseId =>
                    responseId ≠ record.responseId ∧ responseId ∉ after.records.keys), after)

def pinChain (config : StoreConfig τ) (now : τ) (store : InMemoryResponseStore τ)
    (responseId : PyStr) : Outcome τ (Option (List PyStr)) :=
  if ¬NonBlank responseId then (.error blankId, store)
  else
    let store := store.purgeExpiredLocked now
    match store.records.get? responseId with
    | none => (.ok none, store)
    | some first =>
        match store.walk first.record.model [] responseId with
        | .error _ => (.ok none, store)
        | .ok chain =>
            let ids := chain.map Prod.fst
            (.ok (some ids), store.pinAll (storedLinkage τ) (now + config.ttlSeconds) ids)

def unpinChain (store : InMemoryResponseStore τ) (responseIds : List PyStr) :
    InMemoryResponseStore τ :=
  store.unpinAll responseIds

def discard (now : τ) (store : InMemoryResponseStore τ) (responseId : PyStr) : Outcome τ Unit :=
  if ¬NonBlank responseId then (.error blankId, store)
  else (.ok (), (store.purgeExpiredLocked now).removeSubtreeLocked responseId)

def size (now : τ) (store : InMemoryResponseStore τ) : Outcome τ Nat :=
  let store := store.purgeExpiredLocked now
  (.ok store.records.size, store)

def stats (now : τ) (store : InMemoryResponseStore τ) : Outcome τ ResponseStoreStats :=
  let store := store.purgeExpiredLocked now
  (.ok ⟨store.records.size, store.estimatedBytes⟩, store)

end InMemoryResponseStore

/-! ## Runs -/

inductive StoreCall
  | get (responseId : PyStr)
  | materialize (responseId : PyStr)
  | put (record : ResponseRecord)
  | pinChain (responseId : PyStr)
  | unpinChain (responseIds : List PyStr)
  | discard (responseId : PyStr)
  | size
  | stats

variable {τ : Type} [Add τ] [LE τ] [DecidableLE τ]

def StoreCall.run (config : StoreConfig τ) (now : τ) (store : InMemoryResponseStore τ) :
    StoreCall → InMemoryResponseStore τ
  | .get responseId => (store.get config now responseId).2
  | .materialize responseId => (store.materialize config now responseId).2
  | .put record => (store.putWithEvictions config now record).2
  | .pinChain responseId => (store.pinChain config now responseId).2
  | .unpinChain responseIds => store.unpinChain responseIds
  | .discard responseId => (store.discard now responseId).2
  | .size => (store.size now).2
  | .stats => (store.stats now).2

/-- The states of all runs from the empty store, whatever the clock reads. -/
inductive StoreReachable (config : StoreConfig τ) : InMemoryResponseStore τ → Prop
  | initial : StoreReachable config LinkedStore.empty
  | step {store : InMemoryResponseStore τ} (reached : StoreReachable config store) (now : τ)
      (call : StoreCall) : StoreReachable config (call.run config now store)

end ExQServe.State
