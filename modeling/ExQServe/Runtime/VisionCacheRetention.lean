import ExQServe.Runtime.VisionCache

/-! # What the vision cache retains

Both loops of a commit take what fits. From this follow the bytes, the prefix and the old
entries that a commit leaves. -/

namespace ExQServe.Runtime.VisionEmbeddingCache

open Fitting

variable {budget : Nat} {items : List ResolvedItem} {cache : VisionEmbeddingCache}

/-! ## The loops -/

def sizedEntry (item : ResolvedItem) : CacheEntry := (item.1, item.2, (itemSize item).getD 0)

def retained (budget : Nat) (items : List ResolvedItem) : List CacheEntry :=
  (fitting itemSize budget items).map sizedEntry

def oldSize (requestKeys : List PyStr) (entry : CacheEntry) : Option Nat :=
  if entry.1 ∈ requestKeys then none else some entry.2.2

/-- The prefix is only what would fit anyway. -/
theorem admitItems_fst {protect bytes : Nat} (within : bytes ≤ budget)
    (protects : protect ≤ (protectedPrefix budget items bytes).1) :
    (admitItems budget items protect bytes).1 =
      (fitting itemSize (budget - bytes) items).map sizedEntry := by
  induction items generalizing protect bytes with
  | nil => rfl
  | cons item items induction =>
      rw [admitItems]
      rw [protectedPrefix] at protects
      cases sized : itemSize item with
      | none =>
          rw [sized] at protects
          have noPrefix : protect = 0 := Nat.le_zero.mp protects
          rw [noPrefix, fitting_unsized sized]
          exact induction within (Nat.zero_le _)
      | some size =>
          rw [sized] at protects
          dsimp only at protects ⊢
          by_cases large : budget < bytes + size
          · rw [if_pos large] at protects
            have noPrefix : protect = 0 := Nat.le_zero.mp protects
            rw [if_neg (by omega), fitting_skips sized (by omega), noPrefix]
            exact induction within (Nat.zero_le _)
          · rw [if_neg large] at protects
            dsimp only at protects
            have entry : sizedEntry item = (item.1, item.2, size) := by
              rw [sizedEntry, sized, Option.getD_some]
            have later := @induction (protect - 1) (bytes + size) (by omega) (by omega)
            rw [if_pos (by omega), fitting_fits sized (by omega), List.map_cons, entry,
              Nat.sub_sub, ← later]

theorem admitItems_retained :
    (admitItems budget items (protectedPrefix budget items 0).1 0).1 = retained budget items :=
  admitItems_fst (Nat.zero_le _) (Nat.le_refl _)

theorem selectOld_eq (requestKeys : List PyStr) (available : Nat) (entries : List CacheEntry) :
    selectOld requestKeys available entries = fitting (oldSize requestKeys) available entries := by
  induction entries generalizing available with
  | nil => rfl
  | cons entry entries induction =>
      rw [selectOld]
      by_cases requested : entry.1 ∈ requestKeys
      · have unsized : oldSize requestKeys entry = none := if_pos requested
        rw [if_pos requested, fitting_unsized unsized, induction]
      · have sized : oldSize requestKeys entry = some entry.2.2 := if_neg requested
        rw [if_neg requested]
        by_cases fits : entry.2.2 ≤ available
        · rw [if_pos fits, fitting_fits sized fits, induction]
        · rw [if_neg fits, fitting_skips sized (Nat.lt_of_not_le fits), induction]

/-! ## Bytes -/

theorem entryBytes_append (front back : List CacheEntry) :
    entryBytes (front ++ back) = entryBytes front + entryBytes back := by
  rw [entryBytes, List.map_append, List.sum_append, entryBytes, entryBytes]

theorem entryBytes_reverse (entries : List CacheEntry) :
    entryBytes entries.reverse = entryBytes entries := by
  rw [entryBytes, List.map_reverse, List.sum_reverse, entryBytes]

theorem entryBytes_sizedEntry (items : List ResolvedItem) :
    entryBytes (items.map sizedEntry) = total itemSize items := by
  rw [entryBytes, List.map_map]
  rfl

theorem entryBytes_retained_le : entryBytes (retained budget items) ≤ budget := by
  rw [retained, entryBytes_sizedEntry]
  exact total_fitting_le budget items

/-- Outside the request the bytes are those of the entries. -/
theorem entryBytes_of_unrequested {requestKeys : List PyStr} {entries : List CacheEntry}
    (unrequested : ∀ entry ∈ entries, entry.1 ∉ requestKeys) :
    entryBytes entries = total (oldSize requestKeys) entries := by
  rw [entryBytes, total]
  congr 1
  apply List.map_congr_left
  intro entry inside
  rw [oldSize, if_neg (unrequested entry inside), Option.getD_some]

theorem unrequested_of_fitting {requestKeys : List PyStr} {space : Nat}
    {entries : List CacheEntry} :
    ∀ entry ∈ fitting (oldSize requestKeys) space entries, entry.1 ∉ requestKeys := by
  intro entry inside requested
  rcases fitting_sized entry inside with ⟨bytes, sized⟩
  rw [oldSize, if_pos requested] at sized
  cases sized

/-! ## The entries after a commit -/

def keptOld (budget : Nat) (items : List ResolvedItem) (entries : List CacheEntry) :
    List CacheEntry :=
  (fitting (oldSize (items.map Prod.fst)) (budget - entryBytes (retained budget items))
    entries.reverse).reverse

theorem keptOld_sublist (entries : List CacheEntry) :
    (keptOld budget items entries).Sublist entries := by
  have reversed := (@fitting_sublist _ (oldSize (items.map Prod.fst))
    (budget - entryBytes (retained budget items)) entries.reverse).reverse
  rw [List.reverse_reverse] at reversed
  exact reversed

theorem keptOld_unrequested {entries : List CacheEntry} :
    ∀ entry ∈ keptOld budget items entries, entry.1 ∉ items.map Prod.fst := by
  intro entry inside
  exact unrequested_of_fitting entry (List.mem_reverse.mp inside)

theorem retained_keys_sublist :
    ((retained budget items).map Prod.fst).Sublist (items.map Prod.fst) := by
  rw [retained, List.map_map]
  exact (fitting_sublist budget items).map Prod.fst

theorem entryBytes_keptOld_le (entries : List CacheEntry) :
    entryBytes (keptOld budget items entries) + entryBytes (retained budget items) ≤ budget := by
  have old := @total_fitting_le _ (oldSize (items.map Prod.fst))
    (budget - entryBytes (retained budget items)) entries.reverse
  rw [← entryBytes_of_unrequested unrequested_of_fitting] at old
  rw [keptOld, entryBytes_reverse]
  have current := @entryBytes_retained_le budget items
  omega

theorem nodup_keptOld_retained (nodup : (items.map Prod.fst).Nodup)
    (dict : Dict PyStr (VisionEmbedding × Nat)) :
    ((keptOld budget items dict.entries ++ retained budget items).map Prod.fst).Nodup := by
  rw [List.map_append]
  apply List.Nodup.append
  · exact dict.nodup.sublist ((keptOld_sublist _).map Prod.fst)
  · exact nodup.sublist retained_keys_sublist
  · intro key old current
    rcases List.mem_map.mp old with ⟨entry, inside, rfl⟩
    exact keptOld_unrequested entry inside (retained_keys_sublist.subset current)

structure Committed (budget : Nat) (items : List ResolvedItem)
    (cache after : VisionEmbeddingCache) : Prop where
  distinct : (items.map Prod.fst).Nodup
  entries : after.entries.entries =
    keptOld budget items cache.entries.entries ++ retained budget items
  bytes : after.retainedTensorBytes = entryBytes after.entries.entries
  evictions : after.evictions = cache.evictions + evictedEntries cache.entries after.entries

theorem commitRequest_committed {commitAllowed : Bool} {stats : VisionEmbeddingCacheRequestStats}
    {after : VisionEmbeddingCache}
    (returned : cache.commitRequest budget items commitAllowed = (.ok stats, after)) :
    Committed budget items cache after := by
  rw [commitRequest] at returned
  dsimp only at returned
  by_cases distinct : (items.map Prod.fst).Nodup
  · rw [if_neg (not_not_intro distinct)] at returned
    cases commitAllowed with
    | false => cases returned
    | true =>
        cases returned
        have selected : (selectOld (items.map Prod.fst)
            (budget - entryBytes (retained budget items)) cache.entries.entries.reverse).reverse =
            keptOld budget items cache.entries.entries := by
          rw [selectOld_eq, keptOld]
        rw [admitItems_retained, selected]
        have built : (buildEntries (keptOld budget items cache.entries.entries ++
            retained budget items)).entries =
            keptOld budget items cache.entries.entries ++ retained budget items := by
          rw [buildEntries, Dict.entries_foldl_set]
          · rfl
          · exact nodup_keptOld_retained distinct cache.entries
        exact ⟨distinct, built, rfl, rfl⟩
  · rw [if_pos distinct] at returned
    cases returned

/-! ## The budget -/

/-- The byte counter is the sum of the entries' sizes and within the budget. -/
structure Accounted (budget : Nat) (cache : VisionEmbeddingCache) : Prop where
  sum : cache.retainedTensorBytes = entryBytes cache.entries.entries
  within : cache.retainedTensorBytes ≤ budget

theorem entryBytes_eq_total (dict : Dict PyStr (VisionEmbedding × Nat)) :
    (entryBytes dict.entries : Int) = dict.total fun value => (value.2 : Int) := by
  rcases dict with ⟨entries, nodup⟩
  rw [Dict.total]
  dsimp only
  clear nodup
  induction entries with
  | nil => rfl
  | cons entry entries induction =>
      rw [entryBytes, List.map_cons, List.sum_cons, Int.natCast_add, ← entryBytes, induction,
        List.map_cons, List.sum_cons]

theorem evictOldest_accounted {fuel : Nat}
    (sum : cache.retainedTensorBytes = entryBytes cache.entries.entries)
    (enough : cache.entries.size ≤ fuel) : Accounted budget (evictOldest budget fuel cache) := by
  induction fuel generalizing cache with
  | zero =>
      have empty : cache.entries.entries = [] :=
        List.length_eq_zero_iff.mp (Nat.le_zero.mp enough)
      rw [evictOldest]
      refine ⟨sum, ?_⟩
      rw [sum, empty]
      exact Int.natCast_nonneg budget
  | succ fuel induction =>
      rw [evictOldest]
      cases entries : cache.entries.entries with
      | nil =>
          refine ⟨sum, ?_⟩
          rw [sum, entries]
          exact Int.natCast_nonneg budget
      | cons oldest rest =>
          dsimp only
          by_cases exceeded : (budget : Int) < cache.retainedTensorBytes
          · have found : cache.entries.get? oldest.1 = some oldest.2 := by
              rw [Dict.get?_eq_some, entries]
              exact List.mem_cons_self
            rw [if_pos exceeded]
            apply induction
            · have weight : cache.entries.weightAt (fun value => (value.2 : Int)) oldest.1 =
                  oldest.2.2 := by
                rw [Dict.weightAt, found]
                rfl
              dsimp only
              rw [entryBytes_eq_total, Dict.total_erase, weight, sum, entryBytes_eq_total]
            · have smaller := Dict.size_erase found
              dsimp only
              omega
          · rw [if_neg exceeded]
            exact ⟨sum, Int.not_lt.mp exceeded⟩

theorem put_accounted (key : PyStr) (embedding : VisionEmbedding)
    (accounted : Accounted budget cache) : Accounted budget (cache.put budget key embedding).2 := by
  rw [put]
  by_cases disabled : budget = 0
  · rw [if_pos disabled]
    exact accounted
  · rw [if_neg disabled]
    cases embeddingRetainedTensorBytes embedding with
    | none => exact accounted
    | some retained =>
        dsimp only
        by_cases large : budget < retained
        · rw [if_pos large]
          exact accounted
        · rw [if_neg large]
          apply evictOldest_accounted
          · have fresh := cache.entries.not_mem_keys_erase key
            dsimp only
            rw [entryBytes_eq_total, Dict.set, dif_pos fresh, Dict.total_append, Dict.total_erase,
              accounted.sum, entryBytes_eq_total]
            rfl
          · exact Nat.le_refl _

theorem Committed.accounted {after : VisionEmbeddingCache}
    (committed : Committed budget items cache after) : Accounted budget after := by
  refine ⟨committed.bytes, ?_⟩
  rw [committed.bytes, committed.entries, entryBytes_append]
  exact Int.ofNat_le.mpr (entryBytes_keptOld_le _)

theorem get_accounted (key : PyStr) (accounted : Accounted budget cache) :
    Accounted budget (cache.get key).2 := by
  rw [get]
  cases cache.entries.get? key with
  | none => exact ⟨accounted.sum, accounted.within⟩
  | some entry =>
      refine ⟨?_, accounted.within⟩
      dsimp only
      rw [entryBytes_eq_total, Dict.total_moveToEnd, ← entryBytes_eq_total]
      exact accounted.sum

theorem perform_accounted (operation : Operation) (accounted : Accounted budget cache) :
    Accounted budget (cache.perform budget operation) := by
  cases operation with
  | get key => exact get_accounted key accounted
  | peek key => exact accounted
  | snapshotRequest keys =>
      rw [perform, snapshotRequest]
      split
      · exact ⟨accounted.sum, accounted.within⟩
      · exact accounted
  | commitRequest items commitAllowed =>
      rw [perform]
      cases returned : cache.commitRequest budget items commitAllowed with
      | mk result after =>
          cases result with
          | ok stats => exact (commitRequest_committed returned).accounted
          | error failure =>
              have unchanged : after = cache := by
                rw [commitRequest] at returned
                dsimp only at returned
                split at returned
                · exact (Prod.mk.inj returned).2.symm
                · cases commitAllowed with
                  | false => exact (Prod.mk.inj returned).2.symm
                  | true => cases returned
              rw [unchanged]
              exact accounted
  | put key embedding => exact put_accounted key embedding accounted
  | clear => exact ⟨rfl, Int.natCast_nonneg budget⟩

theorem run_accounted (budget : Nat) (operations : List Operation) :
    Accounted budget (run budget operations) := by
  induction operations using List.reverseRecOn with
  | nil => exact ⟨rfl, Int.natCast_nonneg budget⟩
  | append_singleton operations operation induction =>
      rw [run, List.foldl_append, List.foldl_cons, List.foldl_nil, ← run]
      exact perform_accounted operation induction

/-! ## The law of a commit -/

/-- The prefix, the independence of what was there, the old entries that are kept, and the
same request again. -/
structure CommitLaw (budget : Nat) (items : List ResolvedItem)
    (cache after : VisionEmbeddingCache) : Prop where
  prefixRetained : ∀ count, (∀ item ∈ items.take count, ∃ bytes, itemSize item = some bytes) →
    total itemSize (items.take count) ≤ budget →
    ∀ item ∈ items.take count, ∃ bytes, itemSize item = some bytes ∧
      after.entries.get? item.1 = some (item.2, bytes)
  independent : ∀ (other after' : VisionEmbeddingCache) commitAllowed stats,
    other.commitRequest budget items commitAllowed = (.ok stats, after') →
    ∀ key ∈ items.map Prod.fst, after.entries.get? key = after'.entries.get? key
  keptInOrder : ∃ old current, after.entries.entries = old ++ current ∧
    old.Sublist cache.entries.entries ∧ (∀ entry ∈ old, entry.1 ∉ items.map Prod.fst) ∧
    ∀ entry ∈ current, entry.1 ∈ items.map Prod.fst
  droppedDidNotFit : ∀ older entry newer, cache.entries.entries = older ++ entry :: newer →
    entry.1 ∉ items.map Prod.fst → after.entries.get? entry.1 = none →
    budget < entry.2.2 +
      entryBytes (after.entries.entries.filter fun kept => kept.1 ∈ items.map Prod.fst) +
      entryBytes (after.entries.entries.filter fun kept => kept.1 ∈ newer.map Prod.fst ∧
        kept.1 ∉ items.map Prod.fst)
  repeated : ∀ (again : VisionEmbeddingCache) commitAllowed stats,
    after.commitRequest budget items commitAllowed = (.ok stats, again) →
    again.entries = after.entries ∧ again.evictions = after.evictions

theorem filter_requested {after : VisionEmbeddingCache}
    (committed : Committed budget items cache after) :
    after.entries.entries.filter (fun kept => kept.1 ∈ items.map Prod.fst) =
      retained budget items := by
  have none : (keptOld budget items cache.entries.entries).filter
      (fun kept => kept.1 ∈ items.map Prod.fst) = [] := by
    apply List.filter_eq_nil_iff.mpr
    intro entry inside
    rw [decide_eq_true_eq]
    exact keptOld_unrequested entry inside
  have all : (retained budget items).filter (fun kept => kept.1 ∈ items.map Prod.fst) =
      retained budget items := by
    apply List.filter_eq_self.mpr
    intro entry inside
    rw [decide_eq_true_eq]
    exact retained_keys_sublist.subset (List.mem_map_of_mem inside)
  rw [committed.entries, List.filter_append, none, all, List.nil_append]

theorem get?_requested {after : VisionEmbeddingCache} {key : PyStr}
    (committed : Committed budget items cache after) (requested : key ∈ items.map Prod.fst)
    (value : VisionEmbedding × Nat) :
    after.entries.get? key = some value ↔ (key, value) ∈ retained budget items := by
  rw [Dict.get?_eq_some, ← filter_requested committed, List.mem_filter, decide_eq_true_eq]
  exact ⟨fun inside => ⟨inside, requested⟩, And.left⟩

theorem prefix_retained {after : VisionEmbeddingCache}
    (committed : Committed budget items cache after) {count : Nat}
    (sized : ∀ item ∈ items.take count, ∃ bytes, itemSize item = some bytes)
    (fits : total itemSize (items.take count) ≤ budget) :
    ∀ item ∈ items.take count, ∃ bytes, itemSize item = some bytes ∧
      after.entries.get? item.1 = some (item.2, bytes) := by
  intro item inside
  rcases sized item inside with ⟨bytes, known⟩
  have admitted := @prefix_fitting _ itemSize budget _ (items.drop count) sized fits
  rw [List.take_append_drop] at admitted
  have requested : item.1 ∈ items.map Prod.fst :=
    List.mem_map_of_mem (List.mem_of_mem_take inside)
  have entry : sizedEntry item = (item.1, item.2, bytes) := by
    rw [sizedEntry, known, Option.getD_some]
  refine ⟨bytes, known, (get?_requested committed requested _).mpr ?_⟩
  rw [← entry]
  exact List.mem_map_of_mem (admitted.subset inside)

/-- The old entries are selected from the newest on, so that what is kept of the newer ones
does not depend on the others. -/
theorem keptOld_split (older newer : List CacheEntry) :
    ∃ keptOlder keptNewer, keptOld budget items (older ++ newer) = keptOlder ++ keptNewer ∧
      keptOlder.Sublist older ∧ keptNewer = keptOld budget items newer := by
  rw [keptOld, List.reverse_append, fitting_append, List.reverse_append]
  refine ⟨_, _, rfl, ?_, rfl⟩
  have reversed := (@fitting_sublist _ (oldSize (items.map Prod.fst))
    (budget - entryBytes (retained budget items) -
      total (oldSize (items.map Prod.fst)) (fitting (oldSize (items.map Prod.fst))
        (budget - entryBytes (retained budget items)) newer.reverse)) older.reverse).reverse
  rw [List.reverse_reverse] at reversed
  exact reversed

/-- The kept old entries that are newer than this one. -/
theorem filter_newer {after : VisionEmbeddingCache}
    (committed : Committed budget items cache after) {older newer : List CacheEntry}
    (split : cache.entries.entries = older ++ newer) :
    (after.entries.entries.filter fun kept => kept.1 ∈ newer.map Prod.fst ∧
      kept.1 ∉ items.map Prod.fst) = keptOld budget items newer := by
  rcases @keptOld_split budget items older newer with ⟨keptOlder, keptNewer, kept, sublist, same⟩
  have apart : ∀ entry ∈ older, entry.1 ∉ newer.map Prod.fst := by
    intro entry inside later
    have nodup := cache.entries.nodup
    rw [split, List.map_append] at nodup
    exact List.disjoint_of_nodup_append nodup (List.mem_map_of_mem inside) later
  have noOlder : keptOlder.filter (fun kept => kept.1 ∈ newer.map Prod.fst ∧
      kept.1 ∉ items.map Prod.fst) = [] := by
    apply List.filter_eq_nil_iff.mpr
    intro entry inside
    rw [decide_eq_true_eq]
    exact fun both => apart entry (sublist.subset inside) both.1
  have allNewer : keptNewer.filter (fun kept => kept.1 ∈ newer.map Prod.fst ∧
      kept.1 ∉ items.map Prod.fst) = keptNewer := by
    apply List.filter_eq_self.mpr
    intro entry inside
    rw [decide_eq_true_eq]
    rw [same] at inside
    exact ⟨List.mem_map_of_mem ((keptOld_sublist newer).subset inside),
      keptOld_unrequested entry inside⟩
  have noCurrent : (retained budget items).filter (fun kept => kept.1 ∈ newer.map Prod.fst ∧
      kept.1 ∉ items.map Prod.fst) = [] := by
    apply List.filter_eq_nil_iff.mpr
    intro entry inside
    rw [decide_eq_true_eq]
    exact fun both => both.2 (retained_keys_sublist.subset (List.mem_map_of_mem inside))
  rw [committed.entries, split, kept, List.filter_append, List.filter_append, noOlder, allNewer,
    noCurrent, List.nil_append, List.append_nil, same]

theorem dropped_did_not_fit {after : VisionEmbeddingCache}
    (committed : Committed budget items cache after) {older newer : List CacheEntry}
    {entry : CacheEntry} (split : cache.entries.entries = older ++ entry :: newer)
    (unrequested : entry.1 ∉ items.map Prod.fst) (dropped : after.entries.get? entry.1 = none) :
    budget < entry.2.2 +
      entryBytes (after.entries.entries.filter fun kept => kept.1 ∈ items.map Prod.fst) +
      entryBytes (after.entries.entries.filter fun kept => kept.1 ∈ newer.map Prod.fst ∧
        kept.1 ∉ items.map Prod.fst) := by
  have sized : oldSize (items.map Prod.fst) entry = some entry.2.2 := if_neg unrequested
  have missing : entry ∉ keptOld budget items cache.entries.entries := by
    intro kept
    have there : (entry.1, entry.2) ∈ after.entries.entries := by
      rw [committed.entries]
      exact List.mem_append_left _ kept
    rw [← Dict.get?_eq_some, dropped] at there
    cases there
  have large : budget - entryBytes (retained budget items) -
      entryBytes (keptOld budget items newer) < entry.2.2 := by
    rw [split, keptOld, List.reverse_append, List.reverse_cons, List.append_assoc,
      List.mem_reverse] at missing
    rw [keptOld, entryBytes_reverse, entryBytes_of_unrequested unrequested_of_fitting]
    exact large_of_not_mem_fitting sized missing
  have behind : cache.entries.entries = (older ++ [entry]) ++ newer := by
    rw [split, List.append_assoc]
    rfl
  rw [filter_requested committed, filter_newer committed behind]
  have within := @entryBytes_keptOld_le budget items newer
  omega

/-! ## The same request again -/

theorem keptOld_again {after : VisionEmbeddingCache}
    (committed : Committed budget items cache after) :
    keptOld budget items after.entries.entries = keptOld budget items cache.entries.entries := by
  have current : ∀ entry ∈ (retained budget items).reverse,
      oldSize (items.map Prod.fst) entry = none := by
    intro entry inside
    apply if_pos
    exact retained_keys_sublist.subset (List.mem_map_of_mem (List.mem_reverse.mp inside))
  have old : ∀ entry ∈ (keptOld budget items cache.entries.entries).reverse,
      ∃ bytes, oldSize (items.map Prod.fst) entry = some bytes := by
    intro entry inside
    exact ⟨_, if_neg (keptOld_unrequested entry (List.mem_reverse.mp inside))⟩
  have fits : total (oldSize (items.map Prod.fst))
      (keptOld budget items cache.entries.entries).reverse ≤
        budget - entryBytes (retained budget items) := by
    have bytes := @entryBytes_keptOld_le budget items cache.entries.entries
    rw [total_reverse, ← entryBytes_of_unrequested keptOld_unrequested]
    omega
  rw [keptOld, committed.entries, List.reverse_append, fitting_append, fitting_of_unsized current,
    total_nil, Nat.sub_zero, fitting_of_total_le old fits, List.nil_append, List.reverse_reverse]

theorem evictedEntries_self (dict : Dict PyStr (VisionEmbedding × Nat)) :
    evictedEntries dict dict = 0 := by
  rw [evictedEntries, List.countP_eq_zero]
  intro entry inside
  rw [Dict.get?_eq_some.mpr inside]
  simp

theorem committed_again {after again : VisionEmbeddingCache}
    (committed : Committed budget items cache after)
    (repeated : Committed budget items after again) :
    again.entries = after.entries ∧ again.evictions = after.evictions := by
  have same : again.entries = after.entries := by
    ext1
    rw [repeated.entries, keptOld_again committed, ← committed.entries]
  refine ⟨same, ?_⟩
  rw [repeated.evictions, same, evictedEntries_self, Nat.add_zero]

theorem Committed.law {after : VisionEmbeddingCache}
    (committed : Committed budget items cache after) : CommitLaw budget items cache after := by
  constructor
  · exact fun count => prefix_retained committed
  · intro other after' commitAllowed stats returned key requested
    have committed' := commitRequest_committed returned
    apply Option.ext
    intro value
    rw [get?_requested committed requested, get?_requested committed' requested]
  · refine ⟨_, _, committed.entries, keptOld_sublist _, keptOld_unrequested, ?_⟩
    exact fun entry inside => retained_keys_sublist.subset (List.mem_map_of_mem inside)
  · exact fun older entry newer => dropped_did_not_fit committed
  · intro again commitAllowed stats returned
    exact committed_again committed (commitRequest_committed returned)

/-- In every run the bytes are accounted for and within the budget, and every commit keeps
the law. -/
theorem run_respects_budget_and_prefixes (budget : Nat) (operations : List Operation) :
    Accounted budget (run budget operations) ∧
      ∀ items commitAllowed stats after,
        (run budget operations).commitRequest budget items commitAllowed = (.ok stats, after) →
          CommitLaw budget items (run budget operations) after := by
  refine ⟨run_accounted budget operations, ?_⟩
  intro items commitAllowed stats after returned
  exact (commitRequest_committed returned).law

def bytesEmbedding (identity bytes : Nat) : VisionEmbedding :=
  ⟨identity, some ⟨true, true, bytes, 1⟩, .absent⟩

/-- Two old entries and a request that leaves room for the newer one. -/
theorem run_respects_budget_and_prefixes_two :
    CommitLaw 10 [(py "c", bytesEmbedding 3 7)]
      (run 10 [.put (py "a") (bytesEmbedding 1 4), .put (py "b") (bytesEmbedding 2 3)])
      ((run 10 [.put (py "a") (bytesEmbedding 1 4),
        .put (py "b") (bytesEmbedding 2 3)]).commitRequest 10 [(py "c", bytesEmbedding 3 7)]
          true).2 :=
  (run_respects_budget_and_prefixes 10
    [.put (py "a") (bytesEmbedding 1 4), .put (py "b") (bytesEmbedding 2 3)]).2 _ true
    ⟨1, 7, 7, 1, 7, 0, none⟩ _ (by decide)

end ExQServe.Runtime.VisionEmbeddingCache
