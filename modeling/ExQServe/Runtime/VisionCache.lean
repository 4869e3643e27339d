import ExQServe.Foundation.Dict
import ExQServe.Foundation.Fitting
import ExQServe.Foundation.Text

/-! # The vision embedding cache

The model of `runtime/vision_cache.py`. Every method holds the lock while it reads and
changes the entries, so a call is one step. The warning and its clock are left out. -/

namespace ExQServe.Runtime

/-! ## Embeddings -/

structure Tensor where
  measured : Bool
  onCpu : Bool
  numel : Int
  elementSize : Int
deriving DecidableEq, Repr

def tensorRetainedBytes (tensor : Tensor) : Option Nat :=
  if !tensor.measured then none
  else if !tensor.onCpu then none
  else if tensor.numel * tensor.elementSize < 0 then none
  else some (tensor.numel * tensor.elementSize).toNat

inductive Deepstack
  | absent
  | tensors (tensors : List Tensor)
  | other
deriving DecidableEq, Repr

structure VisionEmbedding where
  identity : Nat
  embeddings : Option Tensor
  deepstackEmbeddings : Deepstack
deriving DecidableEq, Repr

/-- `embedding_retained_tensor_bytes`; `none` for an embedding that is unsafe to cache. -/
def embeddingRetainedTensorBytes (embedding : VisionEmbedding) : Option Nat := do
  let tensor ← embedding.embeddings
  let retained ← tensorRetainedBytes tensor
  match embedding.deepstackEmbeddings with
  | .absent => return retained
  | .other => none
  | .tensors tensors =>
      let sizes ← tensors.mapM tensorRetainedBytes
      return retained + sizes.sum

/-! ## The cache -/

structure VisionEmbeddingCacheRequestStats where
  uniqueMediaCount : Nat
  uniqueMediaBytes : Nat
  retainedMediaBytes : Nat
  protectedPrefixEntries : Nat
  protectedPrefixBytes : Nat
  admissionSkipped : Nat
  firstUnretainedMediaOrdinal : Option Nat
deriving DecidableEq, Repr

abbrev CacheEntry := PyStr × VisionEmbedding × Nat

structure VisionEmbeddingCache where
  entries : Dict PyStr (VisionEmbedding × Nat)
  retainedTensorBytes : Int
  queries : Nat
  hits : Nat
  misses : Nat
  evictions : Nat
  admissionSkipped : Nat
  overBudgetRequests : Nat
  incompletePrefixRetentionRequests : Nat
  lastRequest : VisionEmbeddingCacheRequestStats
deriving DecidableEq

inductive VisionCacheFailure
  | valueError (message : String)
  | commitCancelled
deriving DecidableEq, Repr

namespace VisionEmbeddingCache

def initial : VisionEmbeddingCache where
  entries := .empty
  retainedTensorBytes := 0
  queries := 0
  hits := 0
  misses := 0
  evictions := 0
  admissionSkipped := 0
  overBudgetRequests := 0
  incompletePrefixRetentionRequests := 0
  lastRequest := ⟨0, 0, 0, 0, 0, 0, none⟩

def get (key : PyStr) (cache : VisionEmbeddingCache) :
    Option VisionEmbedding × VisionEmbeddingCache :=
  match cache.entries.get? key with
  | none => (none, { cache with queries := cache.queries + 1, misses := cache.misses + 1 })
  | some entry =>
      (some entry.1, { cache with
        entries := cache.entries.moveToEnd key
        queries := cache.queries + 1
        hits := cache.hits + 1 })

def peek (key : PyStr) (cache : VisionEmbeddingCache) : Option VisionEmbedding :=
  (cache.entries.get? key).map Prod.fst

def snapshotRequest (keys : List PyStr) (cache : VisionEmbeddingCache) :
    Except VisionCacheFailure (List (PyStr × VisionEmbedding)) × VisionEmbeddingCache :=
  if keys.Nodup then
    let resolved := keys.filterMap fun key => (cache.peek key).map fun found => (key, found)
    (.ok resolved, { cache with
      queries := cache.queries + keys.length
      hits := cache.hits + resolved.length
      misses := cache.misses + (keys.length - resolved.length) })
  else (.error (.valueError "keys must be unique"), cache)

/-! ### Committing a request -/

abbrev ResolvedItem := PyStr × VisionEmbedding

def itemSize (item : ResolvedItem) : Option Nat := embeddingRetainedTensorBytes item.2

def protectedPrefix (budget : Nat) : List ResolvedItem → Nat → Nat × Nat
  | [], bytes => (0, bytes)
  | item :: items, bytes =>
      match itemSize item with
      | none => (0, bytes)
      | some size =>
          if budget < bytes + size then (0, bytes)
          else
            let rest := protectedPrefix budget items (bytes + size)
            (rest.1 + 1, rest.2)

/-- The loop that admits the items; `protect` counts the items of the prefix that are left. -/
def admitItems (budget : Nat) : List ResolvedItem → Nat → Nat → List CacheEntry × Nat
  | [], _, _ => ([], 0)
  | item :: items, protect, retainedBytes =>
      match itemSize item with
      | none =>
          let rest := admitItems budget items (protect - 1) retainedBytes
          (rest.1, rest.2 + 1)
      | some size =>
          if 0 < protect ∨ retainedBytes + size ≤ budget then
            let rest := admitItems budget items (protect - 1) (retainedBytes + size)
            ((item.1, item.2, size) :: rest.1, rest.2)
          else
            let rest := admitItems budget items (protect - 1) retainedBytes
            (rest.1, rest.2 + 1)

def selectOld (requestKeys : List PyStr) : Nat → List CacheEntry → List CacheEntry
  | _, [] => []
  | available, entry :: older =>
      if entry.1 ∈ requestKeys then selectOld requestKeys available older
      else if entry.2.2 ≤ available then
        entry :: selectOld requestKeys (available - entry.2.2) older
      else selectOld requestKeys available older

def entryBytes (entries : List CacheEntry) : Nat := (entries.map fun entry => entry.2.2).sum

def buildEntries (entries : List CacheEntry) : Dict PyStr (VisionEmbedding × Nat) :=
  entries.foldl (fun dict entry => dict.set entry.1 entry.2) .empty

def evictedEntries (old new : Dict PyStr (VisionEmbedding × Nat)) : Nat :=
  old.entries.countP fun entry =>
    match new.get? entry.1 with
    | none => true
    | some found => found.1.identity != entry.2.1.identity

/-- `commitAllowed` is what the guard of a cancellation authority says. -/
def commitRequest (budget : Nat) (items : List ResolvedItem) (commitAllowed : Bool)
    (cache : VisionEmbeddingCache) :
    Except VisionCacheFailure VisionEmbeddingCacheRequestStats × VisionEmbeddingCache :=
  let keys := items.map Prod.fst
  if ¬keys.Nodup then (.error (.valueError "resolved_items keys must be unique"), cache)
  else
    let uniqueMediaBytes := (items.filterMap itemSize).sum
    let (protectedEntries, protectedBytes) := protectedPrefix budget items 0
    let firstUnretained :=
      if protectedEntries < items.length then some (protectedEntries + 1) else none
    let overBudget := decide (items ≠ []) && decide (0 < budget) &&
      items.all (fun item => (itemSize item).isSome) && decide (budget < uniqueMediaBytes)
    let (retainedCurrent, skipped) := admitItems budget items protectedEntries 0
    if !commitAllowed then (.error .commitCancelled, cache)
    else
      let selected := selectOld keys (budget - entryBytes retainedCurrent)
        cache.entries.entries.reverse
      let newEntries := buildEntries (selected.reverse ++ retainedCurrent)
      let retainedKeys := retainedCurrent.map Prod.fst
      let stats : VisionEmbeddingCacheRequestStats :=
        { uniqueMediaCount := items.length
          uniqueMediaBytes := uniqueMediaBytes
          retainedMediaBytes :=
            entryBytes (newEntries.entries.filter fun entry => entry.1 ∈ retainedKeys)
          protectedPrefixEntries := protectedEntries
          protectedPrefixBytes := protectedBytes
          admissionSkipped := skipped
          firstUnretainedMediaOrdinal := firstUnretained }
      (.ok stats, { cache with
        entries := newEntries
        retainedTensorBytes := entryBytes newEntries.entries
        evictions := cache.evictions + evictedEntries cache.entries newEntries
        admissionSkipped := cache.admissionSkipped + skipped
        overBudgetRequests := cache.overBudgetRequests + if overBudget then 1 else 0
        incompletePrefixRetentionRequests := cache.incompletePrefixRetentionRequests +
          if firstUnretained.isSome then 1 else 0
        lastRequest := stats })

/-! ### Single entries -/

def evictOldest (budget : Nat) : Nat → VisionEmbeddingCache → VisionEmbeddingCache
  | 0, cache => cache
  | fuel + 1, cache =>
      match cache.entries.entries with
      | [] => cache
      | oldest :: _ =>
          if (budget : Int) < cache.retainedTensorBytes then
            evictOldest budget fuel { cache with
              entries := cache.entries.erase oldest.1
              retainedTensorBytes := cache.retainedTensorBytes - oldest.2.2
              evictions := cache.evictions + 1 }
          else cache

def put (budget : Nat) (key : PyStr) (embedding : VisionEmbedding)
    (cache : VisionEmbeddingCache) : Bool × VisionEmbeddingCache :=
  if budget = 0 then (false, cache)
  else
    match embeddingRetainedTensorBytes embedding with
    | none => (false, cache)
    | some retained =>
        if budget < retained then (false, cache)
        else
          let previous : Int := ((cache.entries.get? key).map fun entry => (entry.2 : Int)).getD 0
          let entries := (cache.entries.erase key).set key (embedding, retained)
          (true, evictOldest budget entries.size { cache with
            entries := entries
            retainedTensorBytes := cache.retainedTensorBytes - previous + retained })

def clear (cache : VisionEmbeddingCache) : VisionEmbeddingCache :=
  { cache with
    entries := .empty
    retainedTensorBytes := 0
    lastRequest := ⟨0, 0, 0, 0, 0, 0, none⟩ }

/-! ### Runs -/

inductive Operation
  | get (key : PyStr)
  | peek (key : PyStr)
  | snapshotRequest (keys : List PyStr)
  | commitRequest (items : List ResolvedItem) (commitAllowed : Bool)
  | put (key : PyStr) (embedding : VisionEmbedding)
  | clear

def perform (budget : Nat) (cache : VisionEmbeddingCache) : Operation → VisionEmbeddingCache
  | .get key => (cache.get key).2
  | .peek _ => cache
  | .snapshotRequest keys => (cache.snapshotRequest keys).2
  | .commitRequest items commitAllowed => (cache.commitRequest budget items commitAllowed).2
  | .put key embedding => (cache.put budget key embedding).2
  | .clear => cache.clear

def run (budget : Nat) (operations : List Operation) : VisionEmbeddingCache :=
  operations.foldl (perform budget) initial

end VisionEmbeddingCache

end ExQServe.Runtime
