import ExQServe.State.StoreInvariant

/-! # Refused puts

A put that runs out of budget puts back what it removed, all but the pins. -/

namespace ExQServe.State

open ExQServe.Search ExQServe.Model Forest LinkedStore

variable {τ : Type} [Add τ] [LE τ] [DecidableLE τ]

/-- A put that answers anything but `STORED` leaves what the purge at its start left. -/
def RefusedPutAtomic (config : StoreConfig τ) (now : τ) (store : InMemoryResponseStore τ)
    (record : ResponseRecord) : Prop :=
  ∀ disposition evictions,
    (store.putWithEvictions config now record).1 = .ok (disposition, evictions) →
      disposition ≠ .stored →
        (store.putWithEvictions config now record).2 = store.purgeExpiredLocked now

namespace InMemoryResponseStore

/-- The record goes when the put makes all the room it can: it lies below the record that is
replaced, or below one that is neither shielded nor pinned. -/
def Dislodged (store : InMemoryResponseStore τ) (record : ResponseRecord) (responseId : PyStr) :
    Prop :=
  ∃ top, Under (storedLinks store) responseId top ∧
    (top = record.responseId ∨ ¬store.Shielded record top ∧ store.pinCount top = 0)

open Classical in
/-- The records that stay when the put makes all the room it can. -/
noncomputable def remaining (store : InMemoryResponseStore τ) (record : ResponseRecord) :
    Dict PyStr (StoredRecord τ) :=
  store.records.keep fun responseId => decide ¬store.Dislodged record responseId

def OutOfRoom (config : StoreConfig τ) (store : InMemoryResponseStore τ) (record : ResponseRecord)
    (estimatedBytes : Nat) : Prop :=
  config.maxRecords < (store.remaining record).size + 1 ∨
    (config.maxTotalBytes : Int) <
      (store.remaining record).total (fun stored => stored.estimatedBytes) + estimatedBytes

/-- The put is let through by its checks, there is no room, and something pinned was taken
out to make some. -/
def LosesPins (config : StoreConfig τ) (store : InMemoryResponseStore τ) (record : ResponseRecord) :
    Prop :=
  ∃ estimatedBytes, estimateResponseRecordBytes record = some estimatedBytes ∧
    refusal config store record estimatedBytes = none ∧
    store.OutOfRoom config record estimatedBytes ∧
    ∃ responseId, store.pins.get? responseId ≠ none ∧ store.Dislodged record responseId

section Room

variable {config : StoreConfig τ} {before cleared after : InMemoryResponseStore τ}
  {record : ResponseRecord} {value : StoredRecord τ} {shielded gone lost : List PyStr}
  {succeeded : Bool}

omit [Add τ] [LE τ] [DecidableLE τ] in
/-- Above a record that was there before there is nothing new. -/
theorem under_before (forest : RecordForest before) (room : Room before cleared record gone)
    {key top : PyStr} (left : cleared.records.get? key ≠ none)
    (under :
      Under (storedLinks (cleared.place (storedLinkage τ) record.responseId value)) key top) :
    Under (storedLinks before) key top := by
  have coherent := (forest.pruned room.pruned).coherent
  rcases coherent.grounded key ((links_eq_none _).not.mpr left) with ⟨line, lineage⟩
  have inside := ((place_with room.vacant value).lineage lineage).mem_iff.mpr under
  exact room.pruned.without.under (lineage.mem_iff.mp inside)

omit [Add τ] [LE τ] [DecidableLE τ] in
theorem get?_after
    (evicted : Evicted config shielded
      (cleared.place (storedLinkage τ) record.responseId value) after succeeded lost)
    (room : Room before cleared record gone) {key : PyStr} (old : key ≠ record.responseId) :
    after.records.get? key =
      if key ∈ gone ∨ key ∈ lost then none else before.records.get? key := by
  rw [evicted.pruned.get?, place, Dict.get?_moveToEnd, Dict.get?_set, if_neg old,
    room.pruned.get?]
  by_cases first : key ∈ gone <;> by_cases second : key ∈ lost <;> simp [first, second]

omit [Add τ] [LE τ] [DecidableLE τ] in
/-- The new record is shielded with everything above it. -/
theorem record_kept (forest : RecordForest before) (room : Room before cleared record gone)
    (attachable : before.Attachable record)
    (shields : ∀ responseId, responseId ∈ shielded ↔ before.Shielded record responseId)
    (parent : value.record.parentResponseId = record.parentResponseId)
    (evicted : Evicted config shielded
      (cleared.place (storedLinkage τ) record.responseId value) after succeeded lost) :
    record.responseId ∉ lost := by
  intro inside
  rcases evicted.below record.responseId inside with ⟨top, under, unshielded, -, -⟩
  rcases Relation.ReflTransGen.cases_head under with rfl | ⟨parentId, child, above⟩
  · exact unshielded ((shields _).mpr (.inl rfl))
  · have named : parentId ∈ record.parentResponseId := by
      rw [← parent]
      exact Option.some.inj ((place_with room.vacant value).added.symm.trans child)
    rcases room.attachable attachable parentId named with ⟨known, found, -⟩
    refine unshielded ((shields _).mpr (.inr ⟨parentId, named, under_before forest room ?_ above⟩))
    simp [found]

omit [Add τ] [LE τ] [DecidableLE τ] in
theorem dislodged_of_gone (forest : RecordForest before) (room : Room before cleared record gone)
    (shields : ∀ responseId, responseId ∈ shielded ↔ before.Shielded record responseId)
    (evicted : Evicted config shielded
      (cleared.place (storedLinkage τ) record.responseId value) after succeeded lost)
    {key : PyStr} (present : before.records.get? key ≠ none) (removed : key ∈ gone ∨ key ∈ lost) :
    before.Dislodged record key := by
  by_cases new : key = record.responseId
  · exact ⟨key, .refl, .inl new⟩
  by_cases first : key ∈ gone
  · exact ⟨_, ((room.below key).mp first).2, .inl rfl⟩
  rcases evicted.below key (removed.resolve_left first) with
    ⟨top, under, unshielded, stored, unpinned⟩
  have left : cleared.records.get? key ≠ none := by
    rw [room.pruned.get?, if_neg first]
    exact present
  have above := under_before forest room left under
  refine ⟨top, above, .inr ⟨(shields top).not.mp unshielded, ?_⟩⟩
  have topLeft : top ∉ gone := fun inside => first (room.pruned.downward.under above inside)
  rw [← unpinned]
  exact (room.pruned.pinCount topLeft).symm

omit [Add τ] [LE τ] [DecidableLE τ] in
/-- An eviction that fails has made all the room there is. -/
theorem gone_of_dislodged (forest : RecordForest before) (room : Room before cleared record gone)
    (shields : ∀ responseId, responseId ∈ shielded ↔ before.Shielded record responseId)
    (evicted : Evicted config shielded
      (cleared.place (storedLinkage τ) record.responseId value) after false lost)
    {key : PyStr} (present : before.records.get? key ≠ none)
    (dislodged : before.Dislodged record key) : key ∈ gone ∨ key ∈ lost := by
  rcases dislodged with ⟨top, under, reason⟩
  have topStored : before.records.get? top ≠ none :=
    (links_eq_none _).not.mp
      (forest.coherent.grounded.present_of_under under ((links_eq_none _).not.mpr present))
  by_contra kept
  rw [not_or] at kept
  have topKept : top ∉ gone := fun inside => kept.1 (room.pruned.downward.under under inside)
  rcases reason with rfl | ⟨unshielded, unpinned⟩
  · exact kept.1 ((room.below key).mpr ⟨topStored, under⟩)
  have different : top ≠ record.responseId := fun same => unshielded (.inl same)
  -- The path from the record to the top is there after the first removal.
  have cleared' : Under (storedLinks cleared) key top := by
    rcases forest.coherent.grounded key ((links_eq_none _).not.mpr present) with ⟨line, lineage⟩
    exact (room.pruned.without.lineage room.pruned.downward lineage kept.1).mem_iff.mp
      (lineage.mem_iff.mpr under)
  have placed : Under (storedLinks (cleared.place (storedLinkage τ) record.responseId value))
      key top := by
    have coherent := (forest.pruned room.pruned).coherent
    have left : storedLinks cleared key ≠ none :=
      (room.pruned.without.2 key kept.1).trans_ne ((links_eq_none _).not.mpr present)
    rcases coherent.grounded key left with ⟨line, lineage⟩
    exact ((place_with room.vacant value).lineage lineage).mem_iff.mp
      (lineage.mem_iff.mpr cleared')
  have topLost : top ∉ lost := fun inside =>
    kept.2 (evicted.pruned.downward.under placed inside)
  have found := get?_after evicted room different
  rw [if_neg (not_or.mpr ⟨topKept, topLost⟩)] at found
  have inside : top ∈ after.records.keys :=
    not_not.mp (Dict.get?_eq_none.not.mp (found.trans_ne topStored))
  rcases (evicted.stuck rfl).2 top inside with shield | pinned
  · exact unshielded ((shields top).mp shield)
  · refine pinned ?_
    rw [evicted.pruned.pinCount topLost, ← unpinned]
    exact room.pruned.pinCount topKept

omit [Add τ] [LE τ] [DecidableLE τ] in
theorem erase_after
    (evicted : Evicted config shielded
      (cleared.place (storedLinkage τ) record.responseId value) after succeeded lost)
    (room : Room before cleared record gone) :
    after.records.erase record.responseId =
      before.records.keep fun responseId => decide (responseId ∉ gone ∧ responseId ∉ lost) := by
  have vacant := Dict.get?_eq_none.mp room.vacant
  have placed : (cleared.place (storedLinkage τ) record.responseId value).records.erase
      record.responseId = cleared.records := by
    rw [place, Dict.erase_moveToEnd, Dict.set, dif_pos vacant, Dict.erase_append]
  calc
    after.records.erase record.responseId
      = ((cleared.place (storedLinkage τ) record.responseId value).records.erase
          record.responseId).keep (· ∉ lost) := by
        rw [evicted.pruned.records, Dict.erase, Dict.erase, Dict.keep_keep, Dict.keep_keep]
        exact Dict.keep_congr fun _ _ => by simp [Bool.and_comm]
    _ = (before.records.keep (· ∉ gone)).keep (· ∉ lost) := by
        rw [placed, room.pruned.records]
        congr!
    _ = _ := by
        rw [Dict.keep_keep]
        exact Dict.keep_congr fun _ _ => by simp

omit [Add τ] [LE τ] [DecidableLE τ] in
/-- The sizes after eviction, apart from the new record. -/
theorem totals_after (forest : RecordForest before) (room : Room before cleared record gone)
    (attachable : before.Attachable record)
    (shields : ∀ responseId, responseId ∈ shielded ↔ before.Shielded record responseId)
    (parent : value.record.parentResponseId = record.parentResponseId)
    (evicted : Evicted config shielded
      (cleared.place (storedLinkage τ) record.responseId value) after succeeded lost)
    (weight : StoredRecord τ → Int) :
    after.records.total weight =
      (after.records.erase record.responseId).total weight + weight value := by
  have found : after.records.get? record.responseId = some value := by
    rw [evicted.pruned.get?, if_neg (record_kept forest room attachable shields parent evicted),
      place, Dict.get?_moveToEnd, Dict.get?_set, if_pos rfl]
  rw [Dict.total_erase, Dict.weightAt, found]
  simp

omit [Add τ] [LE τ] [DecidableLE τ] in
theorem outOfRoom_of_stuck (forest : RecordForest before) (room : Room before cleared record gone)
    (attachable : before.Attachable record)
    (shields : ∀ responseId, responseId ∈ shielded ↔ before.Shielded record responseId)
    (parent : value.record.parentResponseId = record.parentResponseId)
    (placed : RecordForest (cleared.place (storedLinkage τ) record.responseId value))
    (evicted : Evicted config shielded
      (cleared.place (storedLinkage τ) record.responseId value) after false lost) :
    before.OutOfRoom config record value.estimatedBytes := by
  have rest : after.records.erase record.responseId = before.remaining record := by
    rw [erase_after evicted room, remaining]
    refine Dict.keep_congr fun key inside => ?_
    have present := fun absent => Dict.get?_eq_none.mp absent inside
    refine decide_eq_decide.mpr ?_
    rw [← not_or, not_iff_not]
    exact ⟨dislodged_of_gone forest room shields evicted present,
      gone_of_dislodged forest room shields evicted present⟩
  have totals := totals_after forest room attachable shields parent evicted
  have count := totals fun _ => 1
  have bytes : (after.records.total fun stored => (storedLinkage τ).bytes stored) =
      (after.records.erase record.responseId).total (fun stored => stored.estimatedBytes) +
        value.estimatedBytes := totals _
  rw [rest, ← Dict.size_eq_total, ← Dict.size_eq_total] at count
  have sum := ((placed.pruned evicted.pruned).coherent.bytes).trans bytes
  rw [rest] at sum
  have exceeded := (evicted.stuck rfl).1
  rw [Fits, not_and_or] at exceeded
  rcases exceeded with many | heavy
  · exact .inl (by omega)
  · exact .inr (by omega)

omit [Add τ] [LE τ] [DecidableLE τ] in
theorem not_outOfRoom_of_fits (forest : RecordForest before)
    (room : Room before cleared record gone)
    (attachable : before.Attachable record)
    (shields : ∀ responseId, responseId ∈ shielded ↔ before.Shielded record responseId)
    (parent : value.record.parentResponseId = record.parentResponseId)
    (placed : RecordForest (cleared.place (storedLinkage τ) record.responseId value))
    (evicted : Evicted config shielded
      (cleared.place (storedLinkage τ) record.responseId value) after true lost) :
    ¬before.OutOfRoom config record value.estimatedBytes := by
  classical
  have rest : before.remaining record =
      (after.records.erase record.responseId).keep
        fun key => decide ¬before.Dislodged record key := by
    rw [erase_after evicted room, remaining, Dict.keep_keep]
    refine Dict.keep_congr fun key inside => ?_
    have present := fun absent => Dict.get?_eq_none.mp absent inside
    have removed := dislodged_of_gone forest room shields evicted present
    by_cases dislodged : before.Dislodged record key
    · simp [dislodged]
    · have kept := mt removed dislodged
      rw [not_or] at kept
      simp [dislodged, kept]
  have totals := totals_after forest room attachable shields parent evicted
  have count := totals fun _ => 1
  have bytes : (after.records.total fun stored => (storedLinkage τ).bytes stored) =
      (after.records.erase record.responseId).total (fun stored => stored.estimatedBytes) +
        value.estimatedBytes := totals _
  rw [← Dict.size_eq_total, ← Dict.size_eq_total] at count
  have sum := ((placed.pruned evicted.pruned).coherent.bytes).trans bytes
  have fewer := (after.records.erase record.responseId).size_keep_le
    fun key => decide ¬before.Dislodged record key
  have positive : ∀ stored : StoredRecord τ, 0 ≤ (stored.estimatedBytes : Int) :=
    fun _ => Int.natCast_nonneg _
  have lighter := (after.records.erase record.responseId).total_keep_le
    (fun key => decide ¬before.Dislodged record key) positive
  rcases evicted.fits rfl with ⟨countFits, bytesFit⟩
  rw [OutOfRoom, rest]
  omega

end Room

omit [Add τ] [LE τ] [DecidableLE τ] in
/-- A failed eviction leaves the pins as they were when nothing pinned went. -/
theorem pins_eq_iff {before after : InMemoryResponseStore τ} {gone lost : List PyStr}
    (pins : after.pins = (before.pins.keep (· ∉ gone)).keep (· ∉ lost)) :
    after.pins = before.pins ↔
      ∀ responseId, before.pins.get? responseId ≠ none → responseId ∉ gone ∧ responseId ∉ lost := by
  rw [pins, Dict.keep_keep]
  constructor
  · intro same responseId pinned
    rw [← same, Dict.get?_keep] at pinned
    by_contra removed
    rw [not_and_or, not_not, not_not] at removed
    refine pinned (if_neg ?_)
    rcases removed with first | second <;> simp [*]
  · intro kept
    refine Dict.keep_eq_self fun responseId inside => ?_
    have outside := kept responseId fun absent => Dict.get?_eq_none.mp absent inside
    simp [outside]

end InMemoryResponseStore

open InMemoryResponseStore

/-- A refused put is atomic except where it loses pins. -/
theorem refusedPutAtomic_iff {config : StoreConfig τ} {store : InMemoryResponseStore τ}
    (reached : StoreReachable config store) (now : τ) (record : ResponseRecord) :
    RefusedPutAtomic config now store record ↔
      ¬(store.purgeExpiredLocked now).LosesPins config record := by
  have invariant := StoreInvariant.of_reachable reached
  have purged := (invariant.purge now).forest
  have ended := putWithEvictions_cases invariant.forest config now record
  rw [RefusedPutAtomic]
  generalize store.putWithEvictions config now record = outcome at ended
  cases ended with
  | unencodable failed =>
      refine iff_of_true (fun _ _ answer => by cases answer) ?_
      rintro ⟨estimatedBytes, estimated, -⟩
      rw [failed] at estimated
      cases estimated
  | refused estimated refused =>
      refine iff_of_true (fun _ _ _ _ => rfl) ?_
      rintro ⟨estimatedBytes, same, admitted, -⟩
      rcases Option.some.inj (estimated.symm.trans same) with rfl
      rw [refused] at admitted
      cases admitted
  | @overBudget estimatedBytes shielded gone lost cleared after estimated admitted shields room
      evicted =>
      have attachable := (attachable_of_admitted admitted).2
      have placed := place_forest purged room attachable estimatedBytes (now + config.ttlSeconds)
      have outOfRoom := outOfRoom_of_stuck purged room attachable shields rfl placed evicted
      have pins : after.pins =
          ((store.purgeExpiredLocked now).pins.keep (· ∉ gone)).keep (· ∉ lost) := by
        rw [evicted.pruned.pins, place, room.pruned.pins]
        congr!
      have gone_iff : ∀ responseId,
          (store.purgeExpiredLocked now).pins.get? responseId ≠ none →
            ((store.purgeExpiredLocked now).Dislodged record responseId ↔
              responseId ∈ gone ∨ responseId ∈ lost) := fun responseId pinned =>
        have present := purged.coherent.pinned responseId pinned
        ⟨gone_of_dislodged purged room shields evicted present,
          dislodged_of_gone purged room shields evicted present⟩
      calc
        _ ↔ after.pins = (store.purgeExpiredLocked now).pins := by
          constructor
          · intro atomic
            have same := congrArg LinkedStore.pins (atomic _ _ rfl (by decide))
            exact same
          · intro same _ _ _ _
            rw [same]
        _ ↔ ∀ responseId, (store.purgeExpiredLocked now).pins.get? responseId ≠ none →
            ¬(store.purgeExpiredLocked now).Dislodged record responseId := by
          rw [pins_eq_iff pins]
          refine forall_congr' fun responseId => imp_congr_right fun pinned => ?_
          rw [gone_iff responseId pinned, not_or]
        _ ↔ _ := by
          rw [LosesPins]
          constructor
          · rintro safe ⟨_, -, -, -, responseId, pinned, dislodged⟩
            exact safe responseId pinned dislodged
          · intro safe responseId pinned dislodged
            exact safe ⟨estimatedBytes, estimated, admitted, outOfRoom, responseId, pinned,
              dislodged⟩
  | @stored estimatedBytes shielded gone lost cleared after estimated admitted shields room
      evicted =>
      have attachable := (attachable_of_admitted admitted).2
      refine iff_of_true (fun _ _ answer refused => ?_) ?_
      · exact (refused (Prod.mk.inj (Except.ok.inj answer)).1.symm).elim
      · rintro ⟨sameBytes, same, -, outOfRoom, -⟩
        rcases Option.some.inj (estimated.symm.trans same) with rfl
        exact not_outOfRoom_of_fits purged room attachable shields rfl
          (place_forest purged room attachable _ _) evicted outOfRoom

theorem refusedPutAtomic_iff_conversation :
    RefusedPutAtomic conversationConfig 2 conversation openingRecord ↔
      ¬(conversation.purgeExpiredLocked 2).LosesPins conversationConfig openingRecord :=
  refusedPutAtomic_iff conversation_reachable 2 openingRecord

/-! ## A pin that is lost -/

def longerRecord : ResponseRecord :=
  { openingRecord with deltaItems := [.message ⟨.user, py "hello there"⟩] }

def separateRecord : ResponseRecord := { openingRecord with responseId := py "c"
                                                            responseIdNonBlank := by decide }

def narrowConfig : StoreConfig Nat := ⟨2, 100, 290, Nat.zero_lt_two, by decide⟩

def pinnedPair : InMemoryResponseStore Nat :=
  [StoreCall.put openingRecord, .put separateRecord, .pinChain (py "a"), .pinChain (py "c")].foldl
    (fun store call => call.run narrowConfig 0 store) LinkedStore.empty

/-- The replacement does not fit beside the other record, which is pinned. It is refused, and
the pin of the record it would have replaced is gone. -/
theorem refused_replacement_drops_pin :
    ¬∀ (config : StoreConfig Nat) (store : InMemoryResponseStore Nat), StoreReachable config store →
      ∀ now record, RefusedPutAtomic config now store record := by
  intro atomic
  have reached : StoreReachable narrowConfig pinnedPair :=
    .step (.step (.step (.step .initial 0 (.put openingRecord)) 0 (.put separateRecord)) 0
      (.pinChain (py "a"))) 0 (.pinChain (py "c"))
  have refused : (pinnedPair.putWithEvictions narrowConfig 0 longerRecord).1 =
      .ok (.refusedBudget, []) := by decide
  have same := atomic narrowConfig pinnedPair reached 0 longerRecord _ _ refused (by decide)
  have before : (pinnedPair.purgeExpiredLocked 0).pinCount (py "a") = 1 := by decide
  have after :
      (pinnedPair.putWithEvictions narrowConfig 0 longerRecord).2.pinCount (py "a") = 0 := by
    decide
  rw [same, before] at after
  cases after

end ExQServe.State
