import ExQServe.State.Store

/-! # The invariant of the response store

One lemma for each method says what it does to the forest of records; every run
keeps the invariant because every call does. -/

namespace ExQServe.State

open ExQServe.Search ExQServe.Model Forest LinkedStore

variable {τ : Type}

abbrev storedLinks (store : InMemoryResponseStore τ) : Links PyStr := links (storedLinkage τ) store

structure RecordForest (store : InMemoryResponseStore τ) : Prop where
  coherent : Coherent (storedLinkage τ) store
  keyed : ∀ responseId stored, store.records.get? responseId = some stored →
    stored.record.responseId = responseId
  oneModel : ∀ responseId stored, store.records.get? responseId = some stored →
    ∀ parentId ∈ stored.record.parentResponseId, ∀ parent,
      store.records.get? parentId = some parent → parent.record.model = stored.record.model

structure StoreInvariant (config : StoreConfig τ) (store : InMemoryResponseStore τ) : Prop where
  forest : RecordForest store
  count : store.records.size ≤ config.maxRecords
  budget : store.estimatedBytes ≤ config.maxTotalBytes

/-- The records stay, with other expiries and pins, in another order. -/
abbrev Renewed (store after : InMemoryResponseStore τ) : Prop :=
  RenewedAs (storedLinkage τ) StoredRecord.record store after

theorem record_renew (expiry : τ) (stored : StoredRecord τ) :
    ((storedLinkage τ).renew expiry stored).record = stored.record := rfl

namespace RecordForest

variable {store after : InMemoryResponseStore τ}

theorem empty : RecordForest (LinkedStore.empty : InMemoryResponseStore τ) where
  coherent := coherent_empty _
  keyed := fun _ _ found => by cases found
  oneModel := fun _ _ found => by cases found

theorem pruned {gone : List PyStr} (forest : RecordForest store)
    (pruned : Pruned (storedLinkage τ) store after gone) : RecordForest after where
  coherent := pruned.coherent forest.coherent
  keyed := fun responseId stored found => by
    rw [pruned.get?] at found
    split at found
    · cases found
    · exact forest.keyed responseId stored found
  oneModel := fun responseId stored found parentId named parent above => by
    rw [pruned.get?] at found above
    split at found
    · cases found
    split at above
    · cases above
    exact forest.oneModel responseId stored found parentId named parent above

theorem renewed (forest : RecordForest store) (renewed : Renewed store after)
    (pinned : ∀ responseId, after.pins.get? responseId ≠ none →
      store.records.get? responseId ≠ none) : RecordForest after where
  coherent := renewed.same.coherent forest.coherent pinned
  keyed := fun responseId stored found => by
    rcases renewed.records responseId stored found with ⟨before, earlier, record⟩
    rw [← record]
    exact forest.keyed responseId before earlier
  oneModel := fun responseId stored found parentId named parent above => by
    rcases renewed.records responseId stored found with ⟨before, earlier, record⟩
    rcases renewed.records parentId parent above with ⟨beforeParent, earlierParent, parentRecord⟩
    rw [← record] at named ⊢
    rw [← parentRecord]
    exact forest.oneModel responseId before earlier parentId named beforeParent earlierParent

/-- A lineage stays within one model. -/
theorem model_of_lineage (forest : RecordForest store) {responseId : PyStr} {line : List PyStr}
    (lineage : Lineage (storedLinks store) responseId line) {stored : StoredRecord τ}
    (found : store.records.get? responseId = some stored) :
    ∀ above ∈ line, ∀ ancestor, store.records.get? above = some ancestor →
      ancestor.record.model = stored.record.model := by
  induction lineage generalizing stored with
  | root root =>
      intro above member ancestor present
      rcases List.mem_singleton.mp member with rfl
      rw [found] at present
      rw [Option.some.inj present]
  | @child responseId parentId line child parents induction =>
      rcases Option.map_eq_some_iff.mp child with ⟨same, found', named⟩
      rcases Option.some.inj (found.symm.trans found') with rfl
      have present := (links_eq_none _).not.mp parents.present
      rcases Option.ne_none_iff_exists'.mp present with ⟨parent, foundParent⟩
      have parentModel := forest.oneModel responseId stored found parentId named parent foundParent
      intro above member ancestor foundAbove
      rcases List.mem_cons.mp member with rfl | inside
      · rw [Option.some.inj (foundAbove.symm.trans found)]
      · exact (induction foundParent above inside ancestor foundAbove).trans parentModel

end RecordForest

namespace InMemoryResponseStore

/-! ## Removal -/

theorem mem_subtree {store : InMemoryResponseStore τ} (indexed : Indexed (storedLinkage τ) store)
    (top key : PyStr) :
    key ∈ store.subtree (fun _ => true) top ↔ Under (storedLinks store) key top := by
  rw [LinkedStore.mem_subtree indexed (fun _ _ _ => rfl)]
  exact and_iff_right rfl

theorem removeSubtreeLocked_pruned {store : InMemoryResponseStore τ}
    (indexed : Indexed (storedLinkage τ) store) (responseId : PyStr) :
    Pruned (storedLinkage τ) store (store.removeSubtreeLocked responseId)
      (store.subtree (fun _ => true) responseId) :=
  .subtree indexed (fun _ _ _ => rfl) responseId

/-- What a purge or an eviction takes out lies below records that could be taken out
on their own. -/
structure Cleared (store after : InMemoryResponseStore τ) (victim : PyStr → Prop)
    (gone : List PyStr) : Prop where
  pruned : Pruned (storedLinkage τ) store after gone
  below : ∀ responseId ∈ gone, ∃ top, Under (storedLinks store) responseId top ∧ victim top ∧
    store.records.get? top ≠ none ∧ store.pinCount top = 0

namespace Cleared

variable {store after last : InMemoryResponseStore τ} {victim : PyStr → Prop} {gone : List PyStr}

theorem refl (coherent : Coherent (storedLinkage τ) store) : Cleared store store victim [] where
  pruned := .refl coherent.indexed
  below := fun _ member => (List.not_mem_nil member).elim

/-- One more subtree. -/
theorem removeSubtree (coherent : Coherent (storedLinkage τ) store)
    (cleared : Cleared store after victim gone) {top : PyStr} (chosen : victim top)
    (present : top ∈ after.records.keys) (unpinned : after.pinCount top = 0) :
    Cleared store (after.removeSubtreeLocked top) victim
      (gone ++ after.subtree (fun _ => true) top) where
  pruned := cleared.pruned.trans
    (removeSubtreeLocked_pruned (cleared.pruned.coherent coherent).indexed top)
  below := by
    intro responseId member
    rcases List.mem_append.mp member with earlier | inside
    · exact cleared.below responseId earlier
    · have indexed := (cleared.pruned.coherent coherent).indexed
      have under := (mem_subtree indexed top responseId).mp inside
      have left : top ∉ gone := fun gone => by
        have absent := cleared.pruned.get? top
        rw [if_pos gone] at absent
        exact Dict.get?_eq_none.mp absent present
      refine ⟨top, cleared.pruned.without.under under, chosen, ?_, ?_⟩
      · have same := cleared.pruned.get? top
        rw [if_neg left] at same
        rw [← same]
        exact fun absent => Dict.get?_eq_none.mp absent present
      · rw [← cleared.pruned.pinCount left]
        exact unpinned

end Cleared

section Purge

variable [Add τ] [LE τ] [DecidableLE τ]

def Expired (store : InMemoryResponseStore τ) (now : τ) (responseId : PyStr) : Prop :=
  ∃ stored, store.records.get? responseId = some stored ∧ stored.expiresAt ≤ now

omit [Add τ] in
theorem purgeExpiredLocked_cleared {store : InMemoryResponseStore τ}
    (coherent : Coherent (storedLinkage τ) store) (now : τ) :
    ∃ gone, Cleared store (store.purgeExpiredLocked now) (store.Expired now) gone := by
  rw [purgeExpiredLocked]
  have chosen : ∀ responseId ∈ (store.records.entries.filter fun entry =>
      entry.2.expiresAt ≤ now ∧ store.pinCount entry.1 = 0).map Prod.fst,
      store.Expired now responseId ∧ store.pinCount responseId = 0 := by
    intro responseId member
    rcases List.mem_map.mp member with ⟨entry, inside, rfl⟩
    rcases List.mem_filter.mp inside with ⟨inside, expired⟩
    have expired := of_decide_eq_true expired
    exact ⟨⟨entry.2, Dict.get?_eq_some.mpr inside, expired.1⟩, expired.2⟩
  -- The loop takes out whole subtrees, and what is left keeps its pins.
  suffices loop : ∀ expired : List PyStr,
      (∀ responseId ∈ expired, store.Expired now responseId ∧ store.pinCount responseId = 0) →
      ∀ current gone, Cleared store current (store.Expired now) gone →
        ∃ gone, Cleared store (expired.foldl (fun store responseId =>
          if responseId ∈ store.records.keys then store.removeSubtreeLocked responseId else store)
          current) (store.Expired now) gone from
    loop _ chosen store [] (.refl coherent)
  intro expired
  induction expired with
  | nil => exact fun _ _ gone cleared => ⟨gone, cleared⟩
  | cons responseId expired induction =>
      intro chosen current gone cleared
      rw [List.foldl_cons]
      refine induction (fun other member => chosen other (List.mem_cons_of_mem _ member)) _ ?_ ?_
      · exact if responseId ∈ current.records.keys then
          gone ++ current.subtree (fun _ => true) responseId else gone
      · split
        · rename_i present
          rcases chosen responseId List.mem_cons_self with ⟨expired, unpinned⟩
          refine cleared.removeSubtree coherent expired present ?_
          have left : responseId ∉ gone := fun gone => by
            have absent := cleared.pruned.get? responseId
            rw [if_pos gone] at absent
            exact Dict.get?_eq_none.mp absent present
          rw [cleared.pruned.pinCount left, unpinned]
        · exact cleared

end Purge

/-! ## Eviction -/

def Fits (config : StoreConfig τ) (store : InMemoryResponseStore τ) : Prop :=
  store.records.size ≤ config.maxRecords ∧ store.estimatedBytes ≤ config.maxTotalBytes

/-- What eviction leaves: a store within its limits, or one over them in which every record
is shielded or pinned. -/
structure Evicted (config : StoreConfig τ) (shielded : List PyStr)
    (store after : InMemoryResponseStore τ) (succeeded : Bool) (gone : List PyStr) : Prop
    extends Cleared store after (· ∉ shielded) gone where
  fits : succeeded = true → Fits config after
  stuck : succeeded = false → ¬Fits config after ∧
    ∀ responseId ∈ after.records.keys, responseId ∈ shielded ∨ after.pinCount responseId ≠ 0

theorem evictToBudgetLocked_evicted (config : StoreConfig τ) (shielded : List PyStr) {fuel : Nat}
    {store : InMemoryResponseStore τ} (coherent : Coherent (storedLinkage τ) store)
    (enough : store.records.size < fuel) :
    ∃ gone, Evicted config shielded store (evictToBudgetLocked config shielded fuel store).2
      (evictToBudgetLocked config shielded fuel store).1 gone := by
  suffices loop : ∀ fuel (current : InMemoryResponseStore τ) gone,
      Cleared store current (· ∉ shielded) gone → current.records.size < fuel →
        ∃ gone, Evicted config shielded store (evictToBudgetLocked config shielded fuel current).2
          (evictToBudgetLocked config shielded fuel current).1 gone from
    loop fuel store [] (.refl coherent) enough
  intro fuel
  induction fuel with
  | zero => exact fun _ _ _ few => (Nat.not_lt_zero _ few).elim
  | succ fuel induction =>
      intro current gone cleared few
      have now := cleared.pruned.coherent coherent
      rw [evictToBudgetLocked]
      by_cases exceeded : current.records.size ≠ 0 ∧ (config.maxRecords < current.records.size ∨
          (config.maxTotalBytes : Int) < current.estimatedBytes)
      · rw [if_pos exceeded]
        cases chosen : current.records.keys.find? fun responseId =>
            responseId ∉ shielded ∧ current.pinCount responseId = 0 with
        | none =>
            change ∃ gone, Evicted config shielded store current false gone
            refine ⟨gone, cleared, fun absurd => Bool.noConfusion absurd, fun _ => ⟨?_, ?_⟩⟩
            · rintro ⟨count, budget⟩
              omega
            · intro responseId inside
              have refused := List.find?_eq_none.mp chosen responseId inside
              by_contra neither
              rw [not_or, not_not] at neither
              exact refused (decide_eq_true neither)
        | some victim =>
            have inside := List.mem_of_find?_eq_some chosen
            have eligible : victim ∉ shielded ∧ current.pinCount victim = 0 := by
              simpa using List.find?_some chosen
            refine induction _ _ (cleared.removeSubtree coherent eligible.1 inside eligible.2) ?_
            have smaller := (removeSubtreeLocked_pruned now.indexed victim).size_lt
              ((mem_subtree now.indexed victim victim).mpr .refl) inside
            omega
      · rw [if_neg exceeded]
        refine ⟨gone, cleared, fun _ => ?_, fun absurd => Bool.noConfusion absurd⟩
        change Fits config current
        by_cases none : current.records.size = 0
        · have empty : current.records.entries = [] := List.length_eq_zero_iff.mp none
          have bytes := now.bytes
          simp only [Dict.total, empty, List.map_nil, List.sum_nil] at bytes
          exact ⟨by omega, by omega⟩
        · simp only [none, ne_eq, not_false_eq_true, true_and, not_or, not_lt] at exceeded
          exact exceeded

/-! ## Walks -/

theorem walk_ok {store : InMemoryResponseStore τ} (forest : RecordForest store) {responseId : PyStr}
    {stored : StoredRecord τ} (found : store.records.get? responseId = some stored) :
    ∃ chain, store.walk stored.record.model [] responseId = .ok chain := by
  have present : storedLinks store responseId ≠ none := by simp [links, found]
  rcases forest.coherent.grounded responseId present with ⟨line, lineage⟩
  refine climb_complete lineage ?_ (fun _ _ => List.not_mem_nil) fun above member ancestor here =>
    ?_
  · have shorter := lineage_length_le lineage
    omega
  · exact decide_eq_true (forest.model_of_lineage lineage found above member ancestor here)

/-! ## Admission -/

structure Attachable (store : InMemoryResponseStore τ) (record : ResponseRecord) : Prop where
  parentStored : ∀ parentId ∈ record.parentResponseId, ∃ parent,
    store.records.get? parentId = some parent ∧ parent.record.model = record.model
  notBelow : ∀ parentId ∈ record.parentResponseId,
    ¬Under (storedLinks store) parentId record.responseId

def Shielded (store : InMemoryResponseStore τ) (record : ResponseRecord) (responseId : PyStr) :
    Prop :=
  responseId = record.responseId ∨
    ∃ parentId ∈ record.parentResponseId, Under (storedLinks store) parentId responseId

theorem attachable_of_admitted {config : StoreConfig τ} {store : InMemoryResponseStore τ}
    {record : ResponseRecord} {estimatedBytes : Nat}
    (admitted : refusal config store record estimatedBytes = none) :
    estimatedBytes ≤ config.maxTotalBytes ∧ store.Attachable record := by
  rw [refusal] at admitted
  split at admitted
  · cases admitted
  rename_i small
  refine ⟨Nat.le_of_not_lt small, ?_⟩
  cases named : record.parentResponseId with
  | none => exact ⟨by simp [named], by simp [named]⟩
  | some parentId =>
      simp only [named] at admitted
      cases found : store.records.get? parentId with
      | none => rw [found] at admitted; cases admitted
      | some parent =>
          simp only [found] at admitted
          split at admitted
          · cases admitted
          rename_i sameModel
          split at admitted
          · cases admitted
          rename_i valid
          rw [not_not, parentChainIsValidLocked] at valid
          cases climbed : store.walk record.model [record.responseId] parentId with
          | error stop => rw [climbed] at valid; cases valid
          | ok chain =>
              rcases climb_sound climbed with ⟨walked, outside⟩
              constructor
              · intro other same
                rcases Option.some.inj (named.symm.trans same) with rfl
                exact ⟨parent, found, not_not.mp sameModel⟩
              · intro other same under
                rcases Option.some.inj (named.symm.trans same) with rfl
                rcases List.mem_map.mp (walked.lineage.mem_iff.mpr under) with
                  ⟨entry, member, atRecord⟩
                exact outside entry member (atRecord ▸ List.mem_singleton_self _)

theorem protectedIds_ok {store : InMemoryResponseStore τ} (forest : RecordForest store)
    {record : ResponseRecord} (attachable : store.Attachable record) :
    ∃ shielded, store.protectedIds record = .ok shielded ∧
      ∀ responseId, responseId ∈ shielded ↔ store.Shielded record responseId := by
  rw [protectedIds]
  cases named : record.parentResponseId with
  | none => exact ⟨_, rfl, fun responseId => by simp [Shielded, named]⟩
  | some parentId =>
      rcases attachable.parentStored parentId named with ⟨parent, found, -⟩
      have present : storedLinks store parentId ≠ none := by simp [links, found]
      rcases forest.coherent.grounded parentId present with ⟨line, lineage⟩
      have shorter := lineage_length_le lineage
      have climbed : ∃ chain, store.climb (storedLinkage τ) (fun _ => true)
          (store.records.size + 1) [] parentId = .ok chain :=
        climb_complete lineage (by omega) (fun _ _ => List.not_mem_nil) fun _ _ _ _ => rfl
      rcases climbed with ⟨chain, climbed⟩
      refine ⟨record.responseId :: chain.map Prod.fst, by simp only [climbed], fun responseId => ?_⟩
      have walked := (climb_sound climbed).1.lineage
      simp [Shielded, named, ← walked.mem_iff]

structure Room (store cleared : InMemoryResponseStore τ) (record : ResponseRecord)
    (gone : List PyStr) : Prop where
  pruned : Pruned (storedLinkage τ) store cleared gone
  below : ∀ responseId, responseId ∈ gone ↔
    store.records.get? record.responseId ≠ none ∧
      Under (storedLinks store) responseId record.responseId
  vacant : cleared.records.get? record.responseId = none

theorem Room.attachable {store cleared : InMemoryResponseStore τ} {record : ResponseRecord}
    {gone : List PyStr} (room : Room store cleared record gone)
    (attachable : store.Attachable record) :
    ∀ parentId ∈ record.parentResponseId, ∃ parent,
      cleared.records.get? parentId = some parent ∧ parent.record.model = record.model := by
  intro parentId named
  rcases attachable.parentStored parentId named with ⟨parent, found, model⟩
  refine ⟨parent, ?_, model⟩
  rw [room.pruned.get?, if_neg, found]
  exact fun inside => attachable.notBelow parentId named ((room.below parentId).mp inside).2

theorem place_forest {store cleared : InMemoryResponseStore τ} (forest : RecordForest store)
    {record : ResponseRecord} {gone : List PyStr} (room : Room store cleared record gone)
    (attachable : store.Attachable record) (estimatedBytes : Nat) (expiry : τ) :
    RecordForest (cleared.place (storedLinkage τ) record.responseId
      ⟨record, estimatedBytes, expiry⟩) := by
  have left := forest.pruned room.pruned
  have get? : ∀ responseId, (cleared.place (storedLinkage τ) record.responseId
      ⟨record, estimatedBytes, expiry⟩).records.get? responseId =
        if responseId = record.responseId then some ⟨record, estimatedBytes, expiry⟩
        else cleared.records.get? responseId := fun responseId => by
    rw [place, Dict.get?_moveToEnd, Dict.get?_set]
  refine ⟨place_coherent left.coherent room.vacant fun parentId named => ?_, ?_, ?_⟩
  · rcases room.attachable attachable parentId named with ⟨parent, found, -⟩
    rw [found]
    exact Option.some_ne_none parent
  · intro responseId stored found
    rw [get?] at found
    split at found
    · rename_i new
      rw [← Option.some.inj found, new]
    · exact left.keyed responseId stored found
  · intro responseId stored found parentId named parent above
    rw [get?] at found above
    split at found
    · rcases Option.some.inj found with rfl
      rcases room.attachable attachable parentId named with ⟨known, foundParent, model⟩
      split at above
      · rename_i self
        rw [self, room.vacant] at foundParent
        cases foundParent
      · rw [← model, Option.some.inj (foundParent.symm.trans above)]
    · split at above
      · -- No record that was left names the new one.
        rename_i self
        have child : ChildOf (storedLinks cleared) responseId parentId := by
          simp [ChildOf, links, found, storedLinkage, Option.mem_def.mp named]
        exact absurd ((links_eq_none _).mpr (self ▸ room.vacant))
          (left.coherent.grounded.parent_present child)
      · exact left.oneModel responseId stored found parentId named parent above

section Put

variable [Add τ] [LE τ] [DecidableLE τ]

omit [LE τ] [DecidableLE τ] in
theorem replace_eq {store : InMemoryResponseStore τ} (forest : RecordForest store)
    (config : StoreConfig τ) (now : τ) (record : ResponseRecord) (estimatedBytes : Nat) :
    ∃ cleared gone, Room store cleared record gone ∧
      store.replace config now record estimatedBytes =
        cleared.place (storedLinkage τ) record.responseId
          ⟨record, estimatedBytes, now + config.ttlSeconds⟩ := by
  rw [replace]
  by_cases inside : record.responseId ∈ store.records.keys
  · have present := fun absent => Dict.get?_eq_none.mp absent inside
    have pruned := removeSubtreeLocked_pruned forest.coherent.indexed record.responseId
    refine ⟨_, _, ⟨pruned, fun responseId => ?_, ?_⟩, by rw [if_pos inside]⟩
    · rw [mem_subtree forest.coherent.indexed]
      exact (and_iff_right present).symm
    · rw [pruned.get?, if_pos ((mem_subtree forest.coherent.indexed _ _).mpr .refl)]
  · have vacant := Dict.get?_eq_none.mpr inside
    refine ⟨store, [], ⟨.refl forest.coherent.indexed, fun responseId => ?_, vacant⟩, by
      rw [if_neg inside]⟩
    simp [vacant]

def entry (config : StoreConfig τ) (now : τ) (record : ResponseRecord) (estimatedBytes : Nat) :
    StoredRecord τ := ⟨record, estimatedBytes, now + config.ttlSeconds⟩

inductive PutCase (config : StoreConfig τ) (now : τ) (store : InMemoryResponseStore τ)
    (record : ResponseRecord) : Outcome τ (ResponseStoreDisposition × List PyStr) → Prop
  | unencodable : estimateResponseRecordBytes record = none →
      PutCase config now store record (.error .unicodeEncode, store)
  | refused {estimatedBytes : Nat} {disposition : ResponseStoreDisposition} :
      estimateResponseRecordBytes record = some estimatedBytes →
      refusal config (store.purgeExpiredLocked now) record estimatedBytes = some disposition →
      PutCase config now store record (.ok (disposition, []), store.purgeExpiredLocked now)
  | overBudget {estimatedBytes : Nat} {shielded gone lost : List PyStr}
      {cleared after : InMemoryResponseStore τ} :
      estimateResponseRecordBytes record = some estimatedBytes →
      refusal config (store.purgeExpiredLocked now) record estimatedBytes = none →
      (∀ responseId, responseId ∈ shielded ↔
        (store.purgeExpiredLocked now).Shielded record responseId) →
      Room (store.purgeExpiredLocked now) cleared record gone →
      Evicted config shielded (cleared.place (storedLinkage τ) record.responseId
        (entry config now record estimatedBytes)) after false lost →
      PutCase config now store record (.ok (.refusedBudget, []), { after with
        records := (store.purgeExpiredLocked now).records
        children := (store.purgeExpiredLocked now).children
        estimatedBytes := (store.purgeExpiredLocked now).estimatedBytes })
  | stored {estimatedBytes : Nat} {shielded gone lost : List PyStr}
      {cleared after : InMemoryResponseStore τ} :
      estimateResponseRecordBytes record = some estimatedBytes →
      refusal config (store.purgeExpiredLocked now) record estimatedBytes = none →
      (∀ responseId, responseId ∈ shielded ↔
        (store.purgeExpiredLocked now).Shielded record responseId) →
      Room (store.purgeExpiredLocked now) cleared record gone →
      Evicted config shielded (cleared.place (storedLinkage τ) record.responseId
        (entry config now record estimatedBytes)) after true lost →
      PutCase config now store record (.ok (.stored,
        (store.purgeExpiredLocked now).records.keys.filter fun responseId =>
          responseId ≠ record.responseId ∧ responseId ∉ after.records.keys), after)

theorem putWithEvictions_cases {store : InMemoryResponseStore τ} (forest : RecordForest store)
    (config : StoreConfig τ) (now : τ) (record : ResponseRecord) :
    PutCase config now store record (store.putWithEvictions config now record) := by
  rcases purgeExpiredLocked_cleared forest.coherent now with ⟨purged, cleared⟩
  have before := forest.pruned cleared.pruned
  rw [putWithEvictions]
  cases estimated : estimateResponseRecordBytes record with
  | none => exact .unencodable estimated
  | some estimatedBytes =>
      dsimp only
      cases refused : refusal config (store.purgeExpiredLocked now) record estimatedBytes with
      | some disposition => exact .refused estimated refused
      | none =>
          have attachable := (attachable_of_admitted refused).2
          rcases protectedIds_ok before attachable with ⟨shielded, listed, shields⟩
          rcases replace_eq before config now record estimatedBytes with
            ⟨cleared, gone, room, replaced⟩
          have placed := place_forest before room attachable estimatedBytes
            (now + config.ttlSeconds)
          rw [listed]
          dsimp only
          rw [replaced]
          rcases evictToBudgetLocked_evicted config shielded placed.coherent (Nat.lt_succ_self _)
            with ⟨lost, evicted⟩
          split
          · rename_i after ended
            rw [ended] at evicted
            exact .overBudget estimated refused shields room evicted
          · rename_i after ended
            rw [ended] at evicted
            exact .stored estimated refused shields room evicted

end Put

end InMemoryResponseStore

/-! ## Every call keeps the invariant -/

namespace StoreInvariant

variable {config : StoreConfig τ} {store after : InMemoryResponseStore τ}

theorem empty (config : StoreConfig τ) : StoreInvariant config LinkedStore.empty where
  forest := .empty
  count := Nat.zero_le _
  budget := Int.natCast_nonneg _

theorem pruned {gone : List PyStr} (invariant : StoreInvariant config store)
    (pruned : Pruned (storedLinkage τ) store after gone) : StoreInvariant config after where
  forest := invariant.forest.pruned pruned
  count := pruned.size_le.trans invariant.count
  budget := pruned.bytes_le.trans invariant.budget

theorem renewed (invariant : StoreInvariant config store) (renewed : Renewed store after)
    (pinned : ∀ responseId, after.pins.get? responseId ≠ none →
      store.records.get? responseId ≠ none) : StoreInvariant config after where
  forest := invariant.forest.renewed renewed pinned
  count := renewed.same.size.le.trans invariant.count
  budget := renewed.same.estimatedBytes.le.trans invariant.budget

theorem touchAll (invariant : StoreInvariant config store) (expiry : τ) (keys : List PyStr) :
    StoreInvariant config (keys.foldl (touch (storedLinkage τ) expiry) store) := by
  refine invariant.renewed (.touchAll record_renew store expiry keys) fun responseId present => ?_
  rw [pins_touchAll] at present
  exact invariant.forest.coherent.pinned responseId present

variable [Add τ] [LE τ] [DecidableLE τ]

omit [Add τ] in
theorem purge (invariant : StoreInvariant config store) (now : τ) :
    StoreInvariant config (store.purgeExpiredLocked now) := by
  rcases InMemoryResponseStore.purgeExpiredLocked_cleared invariant.forest.coherent now with
    ⟨gone, cleared⟩
  exact invariant.pruned cleared.pruned

theorem get (invariant : StoreInvariant config store) (now : τ) (responseId : PyStr) :
    StoreInvariant config (store.get config now responseId).2 := by
  rw [InMemoryResponseStore.get]
  split
  · exact invariant
  · dsimp only
    split
    · exact invariant.purge now
    · exact (invariant.purge now).touchAll _ [responseId]

theorem materialize (invariant : StoreInvariant config store) (now : τ) (responseId : PyStr) :
    StoreInvariant config (store.materialize config now responseId).2 := by
  rw [InMemoryResponseStore.materialize]
  split
  · exact invariant
  have purged := invariant.purge now
  dsimp only
  split
  · exact purged
  split
  · exact purged
  · exact purged.pruned
      (InMemoryResponseStore.removeSubtreeLocked_pruned purged.forest.coherent.indexed responseId)
  · exact purged
  · rename_i chain _
    have touched := purged.touchAll (now + config.ttlSeconds)
      (chain.reverse.map fun entry => entry.2.record.responseId)
    rw [List.foldl_map] at touched
    exact touched

theorem putWithEvictions (invariant : StoreInvariant config store) (now : τ)
    (record : ResponseRecord) :
    StoreInvariant config (store.putWithEvictions config now record).2 := by
  have purged := invariant.purge now
  have placed : ∀ {estimatedBytes gone cleared},
      InMemoryResponseStore.refusal config (store.purgeExpiredLocked now) record estimatedBytes =
        none →
      InMemoryResponseStore.Room (store.purgeExpiredLocked now) cleared record gone →
      RecordForest (cleared.place (storedLinkage τ) record.responseId
        (InMemoryResponseStore.entry config now record estimatedBytes)) := fun admitted room =>
    InMemoryResponseStore.place_forest purged.forest room
      (InMemoryResponseStore.attachable_of_admitted admitted).2 _ _
  have ended := InMemoryResponseStore.putWithEvictions_cases invariant.forest config now record
  generalize store.putWithEvictions config now record = outcome at ended
  cases ended with
  | unencodable => exact invariant
  | refused => exact purged
  | @overBudget estimatedBytes shielded gone lost cleared after estimated admitted shields room
      evicted =>
      refine purged.renewed ⟨⟨rfl, rfl, rfl, rfl, rfl⟩, fun _ stored found => ⟨stored, found, rfl⟩⟩
        ?_
      intro responseId present
      refine purged.forest.coherent.pinned responseId fun absent => present ?_
      simp [evicted.pruned.pins_get?, place, room.pruned.pins_get?, absent]
  | @stored estimatedBytes shielded gone lost cleared after estimated admitted shields room
      evicted =>
      rcases evicted.fits rfl with ⟨count, budget⟩
      exact ⟨(placed admitted room).pruned evicted.pruned, count, budget⟩

theorem pinChain (invariant : StoreInvariant config store) (now : τ) (responseId : PyStr) :
    StoreInvariant config (store.pinChain config now responseId).2 := by
  rw [InMemoryResponseStore.pinChain]
  split
  · exact invariant
  have purged := invariant.purge now
  dsimp only
  split
  · exact purged
  split
  · exact purged
  · rename_i chain climbed
    refine purged.renewed (.pinAll record_renew _ _ _) fun other pinned => ?_
    rcases pins_pinAll _ _ _ pinned with before | inside
    · exact purged.forest.coherent.pinned other before
    · have walked := (climb_sound climbed).1.lineage
      exact (links_eq_none _).not.mp (walked.present_of_mem inside)

omit [Add τ] [LE τ] [DecidableLE τ] in
theorem unpinChain (invariant : StoreInvariant config store) (responseIds : List PyStr) :
    StoreInvariant config (store.unpinChain responseIds) :=
  invariant.renewed (.unpinAll store responseIds) fun responseId pinned =>
    invariant.forest.coherent.pinned responseId (pins_unpinAll store responseIds pinned)

omit [Add τ] in
theorem discard (invariant : StoreInvariant config store) (now : τ) (responseId : PyStr) :
    StoreInvariant config (store.discard now responseId).2 := by
  rw [InMemoryResponseStore.discard]
  split
  · exact invariant
  · have purged := invariant.purge now
    exact purged.pruned
      (InMemoryResponseStore.removeSubtreeLocked_pruned purged.forest.coherent.indexed responseId)

theorem run (invariant : StoreInvariant config store) (now : τ) (call : StoreCall) :
    StoreInvariant config (call.run config now store) := by
  cases call with
  | get responseId => exact invariant.get now responseId
  | materialize responseId => exact invariant.materialize now responseId
  | put record => exact invariant.putWithEvictions now record
  | pinChain responseId => exact invariant.pinChain now responseId
  | unpinChain responseIds => exact invariant.unpinChain responseIds
  | discard responseId => exact invariant.discard now responseId
  | size => exact invariant.purge now
  | stats => exact invariant.purge now

theorem of_reachable (reached : StoreReachable config store) : StoreInvariant config store := by
  induction reached with
  | initial => exact empty config
  | step _ now call invariant => exact invariant.run now call

end StoreInvariant

/-! ## Materialization -/

def Materialized (store : InMemoryResponseStore τ) (responseId : PyStr)
    (items : List CanonicalItem) : Prop :=
  ∃ chain : List (PyStr × StoredRecord τ),
    Lineage (storedLinks store) responseId (chain.map Prod.fst) ∧
    (∀ entry ∈ chain, store.records.get? entry.1 = some entry.2) ∧
    items = chain.reverse.flatMap fun entry => entry.2.record.deltaItems

structure StoreRepresentation (config : StoreConfig τ) (store : InMemoryResponseStore τ) :
    Prop where
  count : store.records.size ≤ config.maxRecords
  bytes : store.estimatedBytes = store.records.total fun stored => stored.estimatedBytes
  budget : store.estimatedBytes ≤ config.maxTotalBytes
  index : ∀ parentId childId, childId ∈ (store.children.get? parentId).getD [] ↔
    ∃ child, store.records.get? childId = some child ∧
      child.record.parentResponseId = some parentId
  noEmptyIndex : ∀ parentId, store.children.get? parentId ≠ some []
  chains : ∀ responseId stored, store.records.get? responseId = some stored →
    ∃ line, Lineage (storedLinks store) responseId line ∧ line.Nodup ∧
      ∀ above ∈ line, ∃ ancestor, store.records.get? above = some ancestor ∧
        ancestor.record.model = stored.record.model

theorem StoreInvariant.representation {config : StoreConfig τ} {store : InMemoryResponseStore τ}
    (invariant : StoreInvariant config store) : StoreRepresentation config store where
  count := invariant.count
  bytes := invariant.forest.coherent.bytes
  budget := invariant.budget
  index := fun parentId childId => by
    refine (invariant.forest.coherent.indexed.inverse parentId childId).trans ?_
    simp [ChildOf, links, storedLinkage]
  noEmptyIndex := invariant.forest.coherent.indexed.noEmpty
  chains := fun responseId stored found => by
    have present : storedLinks store responseId ≠ none := by simp [links, found]
    rcases invariant.forest.coherent.grounded responseId present with ⟨line, lineage⟩
    refine ⟨line, lineage, lineage.nodup, fun above member => ?_⟩
    have here := (links_eq_none _).not.mp (lineage.present_of_mem member)
    rcases Option.ne_none_iff_exists'.mp here with ⟨ancestor, foundAbove⟩
    exact ⟨ancestor, foundAbove,
      invariant.forest.model_of_lineage lineage found above member ancestor foundAbove⟩

variable [Add τ] [LE τ] [DecidableLE τ]

/-- What `materialize` answers, by what the purge at its start left. -/
theorem materialize_ok {config : StoreConfig τ} {store : InMemoryResponseStore τ}
    (invariant : StoreInvariant config store) (now : τ) {responseId : PyStr}
    (nonBlank : NonBlank responseId) :
    (store.purgeExpiredLocked now).records.get? responseId = none ∧
        (store.materialize config now responseId).1 = .ok none ∨
      ∃ items, (store.materialize config now responseId).1 = .ok (some items) ∧
        Materialized (store.purgeExpiredLocked now) responseId items := by
  have purged := (invariant.purge now).forest
  rw [InMemoryResponseStore.materialize, if_neg (not_not.mpr nonBlank)]
  dsimp only
  cases found : (store.purgeExpiredLocked now).records.get? responseId with
  | none => exact .inl ⟨rfl, rfl⟩
  | some first =>
      rcases InMemoryResponseStore.walk_ok purged found with ⟨chain, walked⟩
      have climbed := (climb_sound walked).1
      simp only [walked]
      exact .inr ⟨_, rfl, chain, climbed.lineage, climbed.found, rfl⟩

theorem store_keeps_representation {config : StoreConfig τ} {store : InMemoryResponseStore τ}
    (reached : StoreReachable config store) :
    StoreRepresentation config store ∧
      (∀ now responseId message,
        (store.materialize config now responseId).1 ≠ .error (.invariant message)) ∧
      ∀ now responseId, (store.purgeExpiredLocked now).records.get? responseId ≠ none →
        ∃ items, (store.materialize config now responseId).1 = .ok (some items) ∧
          Materialized (store.purgeExpiredLocked now) responseId items := by
  have invariant := StoreInvariant.of_reachable reached
  refine ⟨invariant.representation, fun now responseId message => ?_,
    fun now responseId present => ?_⟩
  · by_cases nonBlank : NonBlank responseId
    · rcases materialize_ok invariant now nonBlank with ⟨-, absent⟩ | ⟨items, answered, -⟩
      · simp [absent]
      · simp [answered]
    · rw [InMemoryResponseStore.materialize, if_pos nonBlank]
      simp [InMemoryResponseStore.blankId]
  · rcases Option.ne_none_iff_exists'.mp present with ⟨stored, found⟩
    have nonBlank : NonBlank responseId := by
      rw [← (invariant.purge now).forest.keyed responseId stored found]
      exact stored.record.responseIdNonBlank
    exact (materialize_ok invariant now nonBlank).resolve_left fun absent => present absent.1

/-- A conversation of two responses. -/
theorem openingRecord_id : NonBlank (py "a") := by decide

theorem openingRecord_model : NonBlank (py "m") := by decide

def openingRecord : ResponseRecord where
  responseId := py "a"
  model := py "m"
  parentResponseId := none
  deltaItems := [.message ⟨.user, py "hi"⟩]
  responseIdNonBlank := openingRecord_id
  modelNonBlank := openingRecord_model
  parentNonBlank := by simp

def followingRecord : ResponseRecord where
  responseId := py "b"
  model := py "m"
  parentResponseId := some (py "a")
  deltaItems := [.message ⟨.assistant, py "ho"⟩]
  responseIdNonBlank := by decide
  modelNonBlank := openingRecord_model
  parentNonBlank := by decide

theorem conversationBytes_positive : 0 < 1000 := by decide

def conversationConfig : StoreConfig Nat :=
  ⟨2, 5, 1000, Nat.zero_lt_two, conversationBytes_positive⟩

def conversation : InMemoryResponseStore Nat :=
  (StoreCall.put followingRecord).run conversationConfig 1
    ((StoreCall.put openingRecord).run conversationConfig 0 LinkedStore.empty)

theorem conversation_reachable : StoreReachable conversationConfig conversation :=
  .step (.step .initial 0 _) 1 _

theorem conversation_keeps_representation :
    conversation.records.keys = [py "a", py "b"] ∧
      StoreRepresentation conversationConfig conversation :=
  ⟨by decide, (store_keeps_representation conversation_reachable).1⟩

end ExQServe.State
