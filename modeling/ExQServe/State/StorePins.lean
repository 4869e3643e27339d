import ExQServe.State.StoreInvariant

/-! # Pinned chains

Runs in which no id is put twice and only chains that are held are given back. The
pins count the held chains, and a record that is pinned has a pinned parent, so a
record that a purge or an eviction may choose has nothing pinned below it. -/

namespace ExQServe.State

open ExQServe.Search ExQServe.Model Forest LinkedStore

variable {τ : Type}

/-- A chain that `pin_chain` returned, and what was discarded since. -/
structure HeldPin where
  chain : List PyStr
  discarded : List PyStr
deriving DecidableEq

namespace HeldPin

def AtOrAbove (pin : HeldPin) (responseId other : PyStr) : Prop :=
  ∃ below above, pin.chain = below ++ responseId :: above ∧ other ∈ responseId :: above

end HeldPin

section Runs

variable [Add τ] [LE τ] [DecidableLE τ]

/-- The chain that a `pin_chain` call returned is held from then on. -/
def heldAfter (reply : Except StoreFailure (Option (List PyStr))) (held : List HeldPin) :
    List HeldPin :=
  match reply with
  | .ok (some chain) => ⟨chain, []⟩ :: held
  | _ => held

/-- Calls that put, pin and discard nothing. -/
def StoreCall.Reads : StoreCall → Prop
  | .get _ | .materialize _ | .size | .stats => True
  | _ => False

/-- The states of all runs, with the chains held and the ids put so far. -/
inductive PinRun (config : StoreConfig τ) :
    InMemoryResponseStore τ → List HeldPin → List PyStr → Prop
  | initial : PinRun config LinkedStore.empty [] []
  | read {store : InMemoryResponseStore τ} {held : List HeldPin} {used : List PyStr}
      (run : PinRun config store held used) (now : τ) (call : StoreCall) (reads : call.Reads) :
      PinRun config (call.run config now store) held used
  | put {store : InMemoryResponseStore τ} {held : List HeldPin} {used : List PyStr}
      (run : PinRun config store held used) (now : τ) (record : ResponseRecord)
      (fresh : record.responseId ∉ used) :
      PinRun config (store.putWithEvictions config now record).2 held (record.responseId :: used)
  | pin {store : InMemoryResponseStore τ} {held : List HeldPin} {used : List PyStr}
      (run : PinRun config store held used) (now : τ) (responseId : PyStr) :
      PinRun config (store.pinChain config now responseId).2
        (heldAfter (store.pinChain config now responseId).1 held) used
  | unpin {store : InMemoryResponseStore τ} {held : List HeldPin} {used : List PyStr}
      (run : PinRun config store held used) (now : τ) (pin : HeldPin) (holds : pin ∈ held) :
      PinRun config (store.unpinChain pin.chain) (held.erase pin) used
  | discard {store : InMemoryResponseStore τ} {held : List HeldPin} {used : List PyStr}
      (run : PinRun config store held used) (now : τ) (responseId : PyStr) :
      PinRun config (store.discard now responseId).2
        (held.map fun pin => { pin with discarded := responseId :: pin.discarded }) used

end Runs

/-! ## The invariant -/

def holdCount (held : List HeldPin) (responseId : PyStr) : Nat :=
  (held.map fun pin => pin.chain.countP (· = responseId)).sum

/-- The chain follows the parents of the records that are still stored. -/
def HeldPin.Linked (store : InMemoryResponseStore τ) (pin : HeldPin) : Prop :=
  ∀ below responseId above, pin.chain = below ++ responseId :: above →
    ∀ stored, store.records.get? responseId = some stored →
      stored.record.parentResponseId = above.head?

def HeldPin.Kept (store : InMemoryResponseStore τ) (pin : HeldPin) : Prop :=
  ∀ responseId ∈ pin.chain, store.records.get? responseId ≠ none ∨
    ∃ other ∈ pin.discarded, pin.AtOrAbove responseId other

structure PinInvariant (store : InMemoryResponseStore τ) (held : List HeldPin)
    (used : List PyStr) : Prop where
  storedUsed : ∀ responseId, store.records.get? responseId ≠ none → responseId ∈ used
  heldUsed : ∀ pin ∈ held, ∀ responseId ∈ pin.chain, responseId ∈ used
  linked : ∀ pin ∈ held, pin.Linked store
  kept : ∀ pin ∈ held, pin.Kept store
  counted : ∀ responseId, store.records.get? responseId ≠ none →
    store.pinCount responseId = holdCount held responseId

theorem holdCount_pos {held : List HeldPin} {pin : HeldPin} (holds : pin ∈ held)
    {responseId : PyStr} (inside : responseId ∈ pin.chain) : 0 < holdCount held responseId := by
  have single : pin.chain.countP (· = responseId) ≤ holdCount held responseId :=
    List.single_le_sum (fun _ _ => Nat.zero_le _) _ (List.mem_map_of_mem holds)
  exact (List.countP_pos_iff.mpr ⟨responseId, inside, decide_eq_true rfl⟩).trans_le single

theorem holdCount_eq_zero {held : List HeldPin} {responseId : PyStr}
    (outside : ∀ pin ∈ held, responseId ∉ pin.chain) : holdCount held responseId = 0 := by
  refine List.sum_eq_zero fun count member => ?_
  rcases List.mem_map.mp member with ⟨pin, holds, rfl⟩
  refine List.countP_eq_zero.mpr fun other member same => outside pin holds ?_
  exact of_decide_eq_true same ▸ member

theorem holdCount_erase {held : List HeldPin} {pin : HeldPin} (holds : pin ∈ held)
    (responseId : PyStr) :
    holdCount held responseId =
      pin.chain.countP (· = responseId) + holdCount (held.erase pin) responseId := by
  have same :=
    ((List.perm_cons_erase holds).map fun pin => pin.chain.countP (· = responseId)).sum_eq
  simpa [holdCount] using same

/-- A lineage follows the links. -/
theorem links_of_lineage {links : Links PyStr} {key : PyStr} {line : List PyStr}
    (lineage : Lineage links key line) {below above : List PyStr} {responseId : PyStr}
    (placed : line = below ++ responseId :: above) : links responseId = some above.head? := by
  induction lineage generalizing below with
  | root root =>
      rcases below with - | ⟨first, below⟩
      · rcases List.cons.inj placed with ⟨rfl, rfl⟩
        exact root
      · simp at placed
  | @child key parent line child parents induction =>
      rcases below with - | ⟨first, below⟩
      · rcases List.cons.inj placed with ⟨rfl, rfl⟩
        rw [child]
        cases parents <;> rfl
      · exact induction (List.cons.inj placed).2

/-- Above a record of a held chain lie records of that chain. -/
theorem HeldPin.Linked.above {store : InMemoryResponseStore τ} {pin : HeldPin}
    (linked : pin.Linked store) {responseId top : PyStr}
    (under : Under (storedLinks store) responseId top) {below above : List PyStr}
    (placed : pin.chain = below ++ responseId :: above) : top ∈ responseId :: above := by
  induction under using Relation.ReflTransGen.head_induction_on generalizing below above with
  | refl => exact List.mem_cons_self
  | @head responseId parentId child _ induction =>
      rcases Option.map_eq_some_iff.mp child with ⟨stored, found, named⟩
      have next := linked below responseId above placed stored found
      rw [show stored.record.parentResponseId = some parentId from named] at next
      rcases List.head?_eq_some_iff.mp next.symm with ⟨rest, rfl⟩
      have higher : pin.chain = (below ++ [responseId]) ++ parentId :: rest := by
        rw [placed, List.append_assoc]
        rfl
      exact List.mem_cons_of_mem _ (induction higher)

namespace PinInvariant

variable {store after : InMemoryResponseStore τ} {held : List HeldPin} {used : List PyStr}

/-- What a purge or an eviction takes out is in no held chain. -/
theorem not_held {victim : PyStr → Prop} {gone : List PyStr} (pins : PinInvariant store held used)
    (cleared : InMemoryResponseStore.Cleared store after victim gone) {responseId : PyStr}
    (inside : responseId ∈ gone) {pin : HeldPin} (holds : pin ∈ held) :
    responseId ∉ pin.chain := by
  intro member
  rcases cleared.below responseId inside with ⟨top, under, -, stored, unpinned⟩
  rcases List.append_of_mem member with ⟨below, above, placed⟩
  have topInside : top ∈ pin.chain := by
    rw [placed]
    exact List.mem_append_right _ ((pins.linked pin holds).above under placed)
  have positive := holdCount_pos holds topInside
  rw [← pins.counted top stored, unpinned] at positive
  exact Nat.lt_irrefl 0 positive

theorem linked_mono {pin : HeldPin} (linked : pin.Linked store)
    (records : ∀ responseId stored, after.records.get? responseId = some stored →
      ∃ before, store.records.get? responseId = some before ∧ before.record = stored.record) :
    pin.Linked after := by
  intro below responseId above placed stored found
  rcases records responseId stored found with ⟨before, earlier, record⟩
  rw [← record]
  exact linked below responseId above placed before earlier

theorem records_of_pruned {gone : List PyStr}
    (pruned : Pruned (storedLinkage τ) store after gone) :
    ∀ responseId stored, after.records.get? responseId = some stored →
      ∃ before, store.records.get? responseId = some before ∧ before.record = stored.record := by
  intro responseId stored found
  rw [pruned.get?] at found
  split at found
  · cases found
  · exact ⟨stored, found, rfl⟩

theorem present_of_pruned {gone : List PyStr} (pruned : Pruned (storedLinkage τ) store after gone)
    {responseId : PyStr} (present : after.records.get? responseId ≠ none) :
    responseId ∉ gone ∧ store.records.get? responseId ≠ none := by
  rw [pruned.get?] at present
  split at present
  · exact (present rfl).elim
  · rename_i kept
    exact ⟨kept, present⟩

theorem cleared {victim : PyStr → Prop} {gone : List PyStr} (pins : PinInvariant store held used)
    (cleared : InMemoryResponseStore.Cleared store after victim gone) :
    PinInvariant after held used where
  storedUsed := fun responseId present =>
    pins.storedUsed responseId (present_of_pruned cleared.pruned present).2
  heldUsed := pins.heldUsed
  linked := fun pin holds => linked_mono (pins.linked pin holds) (records_of_pruned cleared.pruned)
  kept := fun pin holds responseId member => by
    refine (pins.kept pin holds responseId member).imp_left fun stored => ?_
    rw [cleared.pruned.get?, if_neg fun inside => pins.not_held cleared inside holds member]
    exact stored
  counted := fun responseId present => by
    rcases present_of_pruned cleared.pruned present with ⟨kept, stored⟩
    rw [cleared.pruned.pinCount kept]
    exact pins.counted responseId stored

theorem renewed (pins : PinInvariant store held used) (renewed : Renewed store after)
    (counts : ∀ responseId, after.pinCount responseId = store.pinCount responseId) :
    PinInvariant after held used where
  storedUsed := fun responseId present =>
    pins.storedUsed responseId ((renewed.same.present responseId).not.mp present)
  heldUsed := pins.heldUsed
  linked := fun pin holds => linked_mono (pins.linked pin holds) renewed.records
  kept := fun pin holds responseId member =>
    (pins.kept pin holds responseId member).imp_left (renewed.same.present responseId).not.mpr
  counted := fun responseId present => by
    rw [counts]
    exact pins.counted responseId ((renewed.same.present responseId).not.mp present)

theorem touchAll (pins : PinInvariant store held used) (expiry : τ) (keys : List PyStr) :
    PinInvariant (keys.foldl (touch (storedLinkage τ) expiry) store) held used := by
  refine pins.renewed (.touchAll record_renew store expiry keys) fun responseId => ?_
  rw [pinCount, pins_touchAll]
  rfl

/-- A record under a new id. -/
theorem place (pins : PinInvariant store held used) (coherent : Coherent (storedLinkage τ) store)
    {responseId : PyStr} (fresh : responseId ∉ used) (value : StoredRecord τ) :
    PinInvariant (store.place (storedLinkage τ) responseId value) held (responseId :: used) := by
  have get? : ∀ other, (store.place (storedLinkage τ) responseId value).records.get? other =
      if other = responseId then some value else store.records.get? other := fun other => by
    rw [LinkedStore.place, Dict.get?_moveToEnd, Dict.get?_set]
  have vacant : store.records.get? responseId = none := by
    by_contra present
    exact fresh (pins.storedUsed responseId present)
  have notHeld : ∀ pin ∈ held, responseId ∉ pin.chain := fun pin holds member =>
    fresh (pins.heldUsed pin holds responseId member)
  refine ⟨fun other present => ?_, fun pin holds other member => ?_, fun pin holds => ?_,
    fun pin holds other member => ?_, fun other present => ?_⟩
  · rw [get?] at present
    split at present
    · rename_i same
      exact same ▸ List.mem_cons_self
    · exact List.mem_cons_of_mem _ (pins.storedUsed other present)
  · exact List.mem_cons_of_mem _ (pins.heldUsed pin holds other member)
  · intro below other above placed stored found
    have different : other ≠ responseId := by
      rintro rfl
      exact notHeld pin holds (placed ▸ List.mem_append_right _ List.mem_cons_self)
    rw [get?, if_neg different] at found
    exact pins.linked pin holds below other above placed stored found
  · refine (pins.kept pin holds other member).imp_left fun stored => ?_
    rw [get?]
    split
    · simp
    · exact stored
  · change store.pinCount other = _
    rw [get?] at present
    split at present
    · rename_i same
      subst same
      have unpinned : store.pins.get? other = none := by
        by_contra pinned
        exact coherent.pinned other pinned vacant
      rw [pinCount, unpinned, holdCount_eq_zero notHeld]
      rfl
    · exact pins.counted other present

/-- Room for a new id takes nothing out. -/
theorem room {cleared : InMemoryResponseStore τ} {record : ResponseRecord} {gone : List PyStr}
    (pins : PinInvariant store held used)
    (room : InMemoryResponseStore.Room store cleared record gone)
    (fresh : record.responseId ∉ used) : PinInvariant cleared held used ∧ gone = [] := by
  have vacant : store.records.get? record.responseId = none := by
    by_contra present
    exact fresh (pins.storedUsed _ present)
  have nothing : gone = [] := List.eq_nil_iff_forall_not_mem.mpr fun responseId inside =>
    ((room.below responseId).mp inside).1 vacant
  have cleared : InMemoryResponseStore.Cleared store cleared (fun _ => True) gone :=
    ⟨room.pruned, fun responseId inside => by
      rw [nothing] at inside
      cases inside⟩
  exact ⟨pins.cleared cleared, nothing⟩

section Calls

variable [Add τ] [LE τ] [DecidableLE τ] {config : StoreConfig τ}

omit [Add τ] in
theorem purge (pins : PinInvariant store held used) (forest : RecordForest store) (now : τ) :
    PinInvariant (store.purgeExpiredLocked now) held used := by
  rcases InMemoryResponseStore.purgeExpiredLocked_cleared forest.coherent now with ⟨gone, cleared⟩
  exact pins.cleared cleared

theorem read (pins : PinInvariant store held used) (forest : RecordForest store) (now : τ)
    {call : StoreCall} (reads : call.Reads) :
      PinInvariant (call.run config now store) held used := by
  have purged := pins.purge forest now
  cases call with
  | get responseId =>
      change PinInvariant (store.get config now responseId).2 held used
      rw [InMemoryResponseStore.get]
      split
      · exact pins
      · dsimp only
        split
        · exact purged
        · exact purged.touchAll _ [responseId]
  | materialize responseId =>
      change PinInvariant (store.materialize config now responseId).2 held used
      rw [InMemoryResponseStore.materialize]
      split
      · exact pins
      dsimp only
      cases found : (store.purgeExpiredLocked now).records.get? responseId with
      | none => exact purged
      | some first =>
          rcases InMemoryResponseStore.purgeExpiredLocked_cleared forest.coherent now with
            ⟨gone, cleared⟩
          rcases InMemoryResponseStore.walk_ok (forest.pruned cleared.pruned) found with
            ⟨chain, walked⟩
          simp only [walked]
          have touched := purged.touchAll (now + config.ttlSeconds)
            (chain.reverse.map fun entry => entry.2.record.responseId)
          rw [List.foldl_map] at touched
          exact touched
  | size => exact purged
  | stats => exact purged
  | put | pinChain | unpinChain | discard => exact reads.elim

theorem put (pins : PinInvariant store held used) (forest : RecordForest store) (now : τ)
    {record : ResponseRecord} (fresh : record.responseId ∉ used) :
    PinInvariant (store.putWithEvictions config now record).2 held (record.responseId :: used) := by
  have widen : ∀ {state : InMemoryResponseStore τ}, PinInvariant state held used →
      PinInvariant state held (record.responseId :: used) := fun pins =>
    { pins with
      storedUsed := fun other present => List.mem_cons_of_mem _ (pins.storedUsed other present)
      heldUsed := fun pin holds other member =>
        List.mem_cons_of_mem _ (pins.heldUsed pin holds other member) }
  have purged := pins.purge forest now
  rcases InMemoryResponseStore.purgeExpiredLocked_cleared forest.coherent now with
    ⟨purgedIds, cleared⟩
  have purgedForest := forest.pruned cleared.pruned
  have ended := InMemoryResponseStore.putWithEvictions_cases forest config now record
  generalize store.putWithEvictions config now record = outcome at ended
  cases ended with
  | unencodable => exact widen pins
  | refused => exact widen purged
  | @overBudget estimatedBytes shielded gone lost cleared after estimated admitted shields room
      evicted =>
      rcases purged.room room fresh with ⟨clearedPins, rfl⟩
      have coherent := (purgedForest.pruned room.pruned).coherent
      have placed := clearedPins.place coherent fresh
        (InMemoryResponseStore.entry config now record estimatedBytes)
      have base := widen purged
      refine { base with counted := fun responseId present => ?_ }
      have before := base.counted responseId present
      -- What the eviction took out is put back, and had no pins to lose.
      by_cases removed : responseId ∈ lost
      · have noPins : after.pins.get? responseId = none := by
          rw [evicted.pruned.pins_get?, if_pos removed]
        have notHeld : ∀ pin ∈ held, responseId ∉ pin.chain := fun pin holds =>
          placed.not_held evicted.toCleared removed holds
        rw [holdCount_eq_zero notHeld, pinCount, noPins]
        rfl
      · have kept : after.pinCount responseId =
          (store.purgeExpiredLocked now).pinCount responseId :=
          (evicted.pruned.pinCount removed).trans (room.pruned.pinCount List.not_mem_nil)
        exact kept.trans before
  | @stored estimatedBytes shielded gone lost cleared after estimated admitted shields room
      evicted =>
      rcases purged.room room fresh with ⟨clearedPins, rfl⟩
      have coherent := (purgedForest.pruned room.pruned).coherent
      exact (clearedPins.place coherent fresh
        (InMemoryResponseStore.entry config now record estimatedBytes)).cleared evicted.toCleared

theorem pin (pins : PinInvariant store held used) (forest : RecordForest store) (now : τ)
    (responseId : PyStr) :
    PinInvariant (store.pinChain config now responseId).2
      (heldAfter (store.pinChain config now responseId).1 held) used := by
  have purged := pins.purge forest now
  rw [InMemoryResponseStore.pinChain]
  split
  · exact pins
  dsimp only
  split
  · exact purged
  split
  · exact purged
  rename_i chain walked
  have lineage := (climb_sound walked).1.lineage
  have renewed := RenewedAs.pinAll record_renew (store.purgeExpiredLocked now)
    (now + config.ttlSeconds)
    (chain.map Prod.fst)
  have stored : ∀ other ∈ chain.map Prod.fst,
      (store.purgeExpiredLocked now).records.get? other ≠ none := fun other member =>
    (links_eq_none _).not.mp (lineage.present_of_mem member)
  refine ⟨fun other present => ?_, ?_, ?_, ?_, fun other present => ?_⟩
  · exact purged.storedUsed other ((renewed.same.present other).not.mp present)
  · refine List.forall_mem_cons.mpr ⟨fun other member => ?_, purged.heldUsed⟩
    exact purged.storedUsed other (stored other member)
  · refine List.forall_mem_cons.mpr ⟨?_, fun pin holds =>
      linked_mono (purged.linked pin holds) renewed.records⟩
    intro below other above placed after found
    have follows := links_of_lineage lineage placed
    rw [← renewed.same.links, links, found] at follows
    exact Option.some.inj follows
  · refine List.forall_mem_cons.mpr ⟨fun other member => .inl ?_, fun pin holds other member => ?_⟩
    · exact (renewed.same.present other).not.mpr (stored other member)
    · exact (purged.kept pin holds other member).imp_left (renewed.same.present other).not.mpr
  · have before := purged.counted other ((renewed.same.present other).not.mp present)
    rw [pinCount_pinAll, before, Nat.add_comm]
    rfl

omit [Add τ] [LE τ] [DecidableLE τ] in
theorem unpin (pins : PinInvariant store held used) {pin : HeldPin} (holds : pin ∈ held) :
    PinInvariant (store.unpinChain pin.chain) (held.erase pin) used := by
  have renewed : Renewed store (store.unpinAll pin.chain) := .unpinAll store pin.chain
  have fewer : ∀ other ∈ held.erase pin, other ∈ held := fun other => List.mem_of_mem_erase
  refine ⟨fun other present => ?_, fun other kept => pins.heldUsed other (fewer other kept),
    fun other kept => linked_mono (pins.linked other (fewer other kept)) renewed.records,
    fun other kept responseId member => ?_, fun responseId present => ?_⟩
  · exact pins.storedUsed other ((renewed.same.present other).not.mp present)
  · exact (pins.kept other (fewer other kept) responseId member).imp_left
      (renewed.same.present responseId).not.mpr
  · have before := pins.counted responseId ((renewed.same.present responseId).not.mp present)
    rw [InMemoryResponseStore.unpinChain, pinCount_unpinAll, before, holdCount_erase holds]
    omega

omit [Add τ] [LE τ] [DecidableLE τ] in
/-- The chains with one more id discarded. -/
theorem discarding (pins : PinInvariant store held used) (responseId : PyStr) :
    PinInvariant store
      (held.map fun pin => { pin with discarded := responseId :: pin.discarded }) used where
  storedUsed := pins.storedUsed
  heldUsed := List.forall_mem_map.mpr pins.heldUsed
  linked := List.forall_mem_map.mpr pins.linked
  kept := List.forall_mem_map.mpr fun pin holds other member =>
    (pins.kept pin holds other member).imp_right fun ⟨earlier, was, above⟩ =>
      ⟨earlier, List.mem_cons_of_mem _ was, above⟩
  counted := fun other present => by
    rw [pins.counted other present, holdCount, holdCount, List.map_map]
    rfl

omit [Add τ] in
theorem discard (pins : PinInvariant store held used) (forest : RecordForest store) (now : τ)
    (responseId : PyStr) :
    PinInvariant (store.discard now responseId).2
      (held.map fun pin => { pin with discarded := responseId :: pin.discarded }) used := by
  rw [InMemoryResponseStore.discard]
  split
  · exact pins.discarding responseId
  have purged := pins.purge forest now
  rcases InMemoryResponseStore.purgeExpiredLocked_cleared forest.coherent now with
    ⟨purgedIds, cleared⟩
  have indexed := (forest.pruned cleared.pruned).coherent.indexed
  have pruned := InMemoryResponseStore.removeSubtreeLocked_pruned indexed responseId
  have noted := purged.discarding responseId
  refine ⟨fun other present => ?_, noted.heldUsed,
    fun pin holds => linked_mono (noted.linked pin holds) (records_of_pruned pruned),
    fun pin holds other member => ?_, fun other present => ?_⟩
  · exact purged.storedUsed other (present_of_pruned pruned present).2
  · rcases noted.kept pin holds other member with stored | earlier
    · by_cases removed : other ∈ (store.purgeExpiredLocked now).subtree (fun _ => true) responseId
      · have under := (InMemoryResponseStore.mem_subtree indexed responseId other).mp removed
        rcases List.append_of_mem member with ⟨below, above, placed⟩
        refine .inr ⟨responseId, ?_, below, above, placed,
          (noted.linked pin holds).above under placed⟩
        rcases List.mem_map.mp holds with ⟨before, -, rfl⟩
        exact List.mem_cons_self
      · refine .inl ?_
        rw [pruned.get?, if_neg removed]
        exact stored
    · exact .inr earlier
  · rcases present_of_pruned pruned present with ⟨kept, stored⟩
    rw [pruned.pinCount kept]
    exact noted.counted other stored

end Calls

end PinInvariant

/-! ## Runs -/

variable [Add τ] [LE τ] [DecidableLE τ] {config : StoreConfig τ}

theorem PinRun.reachable {store : InMemoryResponseStore τ} {held : List HeldPin}
    {used : List PyStr} (run : PinRun config store held used) : StoreReachable config store := by
  induction run with
  | initial => exact .initial
  | read _ now call _ reached => exact .step reached now call
  | put _ now record _ reached => exact .step reached now (.put record)
  | pin _ now responseId reached => exact .step reached now (.pinChain responseId)
  | unpin _ now pin _ reached => exact .step reached now (.unpinChain pin.chain)
  | discard _ now responseId reached => exact .step reached now (.discard responseId)

theorem PinRun.invariant {store : InMemoryResponseStore τ} {held : List HeldPin}
    {used : List PyStr} (run : PinRun config store held used) : PinInvariant store held used := by
  induction run with
  | initial =>
      have noPins : ∀ pin ∈ ([] : List HeldPin), False := fun _ => List.not_mem_nil
      exact ⟨fun _ present => (present rfl).elim, fun _ holds => (noPins _ holds).elim,
        fun _ holds => (noPins _ holds).elim, fun _ holds => (noPins _ holds).elim,
        fun _ present => (present rfl).elim⟩
  | read run now call reads pins =>
      exact pins.read (StoreInvariant.of_reachable run.reachable).forest now reads
  | put run now record fresh pins =>
      exact pins.put (StoreInvariant.of_reachable run.reachable).forest now fresh
  | pin run now responseId pins =>
      exact pins.pin (StoreInvariant.of_reachable run.reachable).forest now responseId
  | unpin _ now pin holds pins => exact pins.unpin holds
  | discard run now responseId pins =>
      exact pins.discard (StoreInvariant.of_reachable run.reachable).forest now responseId

theorem pinned_chain_survives {store : InMemoryResponseStore τ} {held : List HeldPin}
    {used : List PyStr} (run : PinRun config store held used) {pin : HeldPin} (holds : pin ∈ held)
    {responseId : PyStr} (member : responseId ∈ pin.chain) :
    (∃ stored, store.records.get? responseId = some stored) ∨
      ∃ other ∈ pin.discarded, pin.AtOrAbove responseId other :=
  (run.invariant.kept pin holds responseId member).imp_left Option.ne_none_iff_exists'.mp

def pinnedConversation : InMemoryResponseStore Nat :=
  (InMemoryResponseStore.size 9 (conversation.pinChain conversationConfig 2 (py "b")).2).2

theorem pinned_conversation_survives :
    ∃ stored, pinnedConversation.records.get? (py "a") = some stored := by
  have run : PinRun conversationConfig pinnedConversation
      (heldAfter (conversation.pinChain conversationConfig 2 (py "b")).1 []) [py "b", py "a"] :=
    .read
      (.pin (.put (.put .initial 0 openingRecord (by decide)) 1 followingRecord (by decide)) 2 _)
      9 .size trivial
  have reply : (conversation.pinChain conversationConfig 2 (py "b")).1 =
      .ok (some [py "b", py "a"]) := by decide
  rw [reply] at run
  refine (pinned_chain_survives run List.mem_cons_self (by decide)).resolve_right ?_
  rintro ⟨_, none, -⟩
  exact List.not_mem_nil none

end ExQServe.State
