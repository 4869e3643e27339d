import ExQServe.State.Lifecycle

/-! # The invariant of the response lifecycle store

The victims of a retention are chosen on projected counters before anything is
removed. The projection follows the removal: what it subtracts is what the subtrees
of the victims weigh together, whatever way they overlap. -/

namespace ExQServe.State

open ExQServe.Search ExQServe.Model Forest LinkedStore

variable {τ : Type}

abbrev retainedLinks (store : RetainedResponses τ) : Links PyStr := links (retainedLinkage τ) store

structure RetainedForest (store : RetainedResponses τ) : Prop where
  coherent : Coherent (retainedLinkage τ) store
  keyed : ∀ responseId retained, store.records.get? responseId = some retained →
    wireResponseId retained.response = .ok responseId
  named : ∀ responseId retained, store.records.get? responseId = some retained →
    previousResponse retained.response = none ∨
      ∃ parentId, previousResponse retained.response = some (.str parentId)

structure RetainedInvariant (config : LifecycleConfig τ) (store : RetainedResponses τ) : Prop where
  forest : RetainedForest store
  count : store.records.size ≤ config.maxRecords
  budget : store.estimatedBytes ≤ config.maxTotalBytes

theorem previousId_of_str {response : JsonObject} {parentId : PyStr}
    (named : previousResponse response = some (.str parentId)) :
    previousId response = some parentId := by
  rw [previousId, named]

theorem previousId_of_none {response : JsonObject} (root : previousResponse response = none) :
    previousId response = none := by
  rw [previousId, root]

namespace RetainedResponses

/-! ## Removal -/

theorem mem_subtreeIds {store : RetainedResponses τ} (indexed : Indexed (retainedLinkage τ) store)
    (top key : PyStr) :
    key ∈ store.subtreeIdsLocked top ↔
      top ∈ store.records.keys ∧ Under (retainedLinks store) key top := by
  rw [subtreeIdsLocked, mem_subtree indexed]
  · rw [decide_eq_true_iff]
  · intro child parent link
    rcases Option.map_eq_some_iff.mp link with ⟨retained, found, -⟩
    exact decide_eq_true (Dict.mem_keys_of_get? found)

theorem removeSubtreeLocked_pruned {store : RetainedResponses τ}
    (indexed : Indexed (retainedLinkage τ) store) (responseId : PyStr) :
    Pruned (retainedLinkage τ) store (store.removeSubtreeLocked responseId).2
      (store.subtreeIdsLocked responseId) := by
  apply Pruned.subtree indexed
  intro child parent link
  rcases Option.map_eq_some_iff.mp link with ⟨retained, found, -⟩
  exact decide_eq_true (Dict.mem_keys_of_get? found)

structure Swept (store after : RetainedResponses τ) (victims gone : List PyStr) : Prop where
  pruned : Pruned (retainedLinkage τ) store after gone
  below : ∀ key, key ∈ gone ↔ ∃ victim ∈ victims, key ∈ store.subtreeIdsLocked victim

namespace Swept

variable {store after : RetainedResponses τ} {victims gone : List PyStr}

theorem refl (coherent : Coherent (retainedLinkage τ) store) : Swept store store [] [] where
  pruned := .refl coherent.indexed
  below := fun key => by simp

/-- One more subtree, of which part may be gone. -/
theorem removeSubtree (coherent : Coherent (retainedLinkage τ) store)
    (swept : Swept store after victims gone) (victim : PyStr) :
    Swept store (after.removeSubtreeLocked victim).2 (victims ++ [victim])
      (gone ++ after.subtreeIdsLocked victim) where
  pruned := swept.pruned.trans
    (removeSubtreeLocked_pruned (swept.pruned.coherent coherent).indexed victim)
  below := by
    have left := swept.pruned.coherent coherent
    have kept : ∀ key, key ∉ gone → (key ∈ after.records.keys ↔ key ∈ store.records.keys) := by
      intro key outside
      have same := swept.pruned.get? key
      rw [if_neg outside] at same
      rw [← not_iff_not, ← Dict.get?_eq_none, ← Dict.get?_eq_none, same]
    -- A path that is not gone is not cut.
    have later : ∀ key, key ∉ gone →
        (key ∈ after.subtreeIdsLocked victim ↔ key ∈ store.subtreeIdsLocked victim) := by
      intro key outside
      rw [mem_subtreeIds left.indexed, mem_subtreeIds coherent.indexed]
      constructor
      · rintro ⟨present, under⟩
        have victimKept : victim ∉ gone := by
          intro inside
          have absent := swept.pruned.get? victim
          rw [if_pos inside] at absent
          exact Dict.get?_eq_none.mp absent present
        exact ⟨(kept victim victimKept).mp present, swept.pruned.without.under under⟩
      · rintro ⟨present, under⟩
        have victimKept : victim ∉ gone := fun inside =>
          outside (swept.pruned.downward.under under inside)
        refine ⟨(kept victim victimKept).mpr present, ?_⟩
        by_cases same : key = victim
        · rw [same]
          exact .refl
        · have keyPresent : retainedLinks store key ≠ none := by
            rcases Relation.ReflTransGen.cases_head under with equal | ⟨parent, link, -⟩
            · exact absurd equal same
            · exact link.trans_ne (Option.some_ne_none _)
          rcases coherent.grounded key keyPresent with ⟨line, lineage⟩
          have cut := swept.pruned.without.lineage swept.pruned.downward lineage outside
          exact cut.mem_iff.mp (lineage.mem_iff.mpr under)
    intro key
    rw [List.mem_append, swept.below]
    constructor
    · rintro (⟨earlier, member, inside⟩ | inside)
      · exact ⟨earlier, List.mem_append_left _ member, inside⟩
      · by_cases outside : key ∈ gone
        · rcases (swept.below key).mp outside with ⟨earlier, member, below⟩
          exact ⟨earlier, List.mem_append_left _ member, below⟩
        · exact ⟨victim, List.mem_append_right _ (List.mem_singleton_self _),
            (later key outside).mp inside⟩
    · rintro ⟨chosen, member, inside⟩
      by_cases outside : key ∈ gone
      · exact .inl ((swept.below key).mp outside)
      · rcases List.mem_append.mp member with earlier | single
        · exact .inl ⟨chosen, earlier, inside⟩
        · rcases List.mem_singleton.mp single with rfl
          exact .inr ((later key outside).mpr inside)

end Swept

theorem evictVictims_swept {store : RetainedResponses τ}
    (coherent : Coherent (retainedLinkage τ) store) (victims : List PyStr) :
    ∃ gone, Swept store (store.evictVictims victims).2 victims gone ∧
      ∀ key, key ∈ (store.evictVictims victims).1 ↔ key ∈ gone := by
  suffices loop : ∀ (rest before : List PyStr) (current : List PyStr × RetainedResponses τ) gone,
      Swept store current.2 before gone → (∀ key, key ∈ current.1 ↔ key ∈ gone) →
        ∃ gone, Swept store (rest.foldl evictVictim current).2 (before ++ rest) gone ∧
          ∀ key, key ∈ (rest.foldl evictVictim current).1 ↔ key ∈ gone by
    have whole := loop victims [] ([], store) [] (.refl coherent) fun _ => Iff.rfl
    rw [List.nil_append] at whole
    exact whole
  intro rest
  induction rest with
  | nil =>
      intro before current gone swept listed
      rw [List.append_nil]
      exact ⟨gone, swept, listed⟩
  | cons victim rest induction =>
      intro before current gone swept listed
      rw [List.foldl_cons, List.append_cons]
      apply induction _ (evictVictim current victim) _ (swept.removeSubtree coherent victim)
      intro key
      have collected : key ∈ (evictVictim current victim).1 ↔
          key ∈ current.1 ∨ key ∈ current.2.subtreeIdsLocked victim ∧ key ∉ current.1 := by
        change key ∈ _ ++ _ ↔ _
        rw [List.mem_append, List.mem_filter, decide_eq_true_iff]
        rfl
      rw [collected, List.mem_append, listed]
      tauto

/-! ## The projection -/

/-- The counters of a projection are those it began with, less what its victims weigh. -/
structure Tracks (store : RetainedResponses τ) (base projection : Projection) : Prop where
  nodup : projection.victimIds.Nodup
  present : ∀ key ∈ projection.victimIds, key ∈ store.records.keys
  records : projection.records = base.records - projection.victimIds.length
  bytes : projection.bytes = base.bytes -
    (projection.victimIds.map
      (store.records.weightAt fun retained => retained.estimatedBytes)).sum

theorem Tracks.add {store : RetainedResponses τ} {base projection : Projection}
    (tracks : Tracks store base projection) (key : PyStr) :
    Tracks store base (projection.add store key) := by
  rw [Projection.add]
  split
  · exact tracks
  rename_i new
  cases found : store.records.get? key with
  | none => exact tracks
  | some retained =>
      refine ⟨?_, ?_, ?_, ?_⟩
      · apply List.Nodup.append tracks.nodup (List.nodup_singleton key)
        intro other inside single
        rcases List.mem_singleton.mp single with rfl
        exact new inside
      · intro other member
        rcases List.mem_append.mp member with old | single
        · exact tracks.present other old
        · rcases List.mem_singleton.mp single with rfl
          exact Dict.mem_keys_of_get? found
      · have before := tracks.records
        simp only [List.length_append, List.length_singleton]
        omega
      · have before := tracks.bytes
        have weight : store.records.weightAt (fun retained => (retained.estimatedBytes : Int)) key =
            retained.estimatedBytes := by simp [Dict.weightAt, found]
        simp only [List.map_append, List.map_cons, List.map_nil, List.sum_append, List.sum_cons,
          List.sum_nil, weight]
        omega

theorem mem_victimIds_add (store : RetainedResponses τ) (projection : Projection)
    (key other : PyStr) :
    other ∈ (projection.add store key).victimIds ↔
      other ∈ projection.victimIds ∨ other = key ∧ key ∈ store.records.keys := by
  rw [Projection.add]
  split
  · rename_i old
    constructor
    · exact .inl
    · rintro (before | ⟨rfl, -⟩)
      · exact before
      · exact old
  · cases found : store.records.get? key with
    | none => simp [Dict.get?_eq_none.mp found]
    | some retained => simp [Dict.mem_keys_of_get? found]

theorem victims_add (store : RetainedResponses τ) (projection : Projection) (key : PyStr) :
    (projection.add store key).victims = projection.victims := by
  rw [Projection.add]
  split
  · rfl
  · split <;> rfl

/-- A whole subtree among the victims. -/
theorem addAll (store : RetainedResponses τ) {base projection : Projection}
    (tracks : Tracks store base projection) (keys : List PyStr) :
    Tracks store base (keys.foldl (Projection.add store) projection) ∧
      (keys.foldl (Projection.add store) projection).victims = projection.victims ∧
      ∀ other, other ∈ (keys.foldl (Projection.add store) projection).victimIds ↔
        other ∈ projection.victimIds ∨ other ∈ keys ∧ other ∈ store.records.keys := by
  induction keys generalizing projection with
  | nil => exact ⟨tracks, rfl, fun other => by simp⟩
  | cons key keys induction =>
      rcases induction (tracks.add key) with ⟨later, victims, members⟩
      refine ⟨later, victims.trans (victims_add store projection key), fun other => ?_⟩
      refine (members other).trans ?_
      rw [mem_victimIds_add, List.mem_cons]
      constructor
      · rintro ((old | ⟨rfl, present⟩) | ⟨inside, present⟩)
        · exact .inl old
        · exact .inr ⟨.inl rfl, present⟩
        · exact .inr ⟨.inr inside, present⟩
      · rintro (old | ⟨rfl | inside, present⟩)
        · exact .inl (.inl old)
        · exact .inl (.inr ⟨rfl, present⟩)
        · exact .inr ⟨inside, present⟩

structure Chosen (store : RetainedResponses τ) (shielded : List PyStr)
    (base projection : Projection) : Prop where
  tracks : Tracks store base projection
  below : ∀ key, key ∈ projection.victimIds ↔
    ∃ victim ∈ projection.victims, key ∈ store.subtreeIdsLocked victim
  removable : ∀ key ∈ projection.victimIds, key ∉ shielded ∧ store.pinCount key = 0

theorem choose_chosen {store : RetainedResponses τ} (config : LifecycleConfig τ)
    (coherent : Coherent (retainedLinkage τ) store) (shielded : List PyStr)
    (candidates : List PyStr) {base projection : Projection}
    (chosen : Chosen store shielded base projection) :
    Chosen store shielded base (projection.choose config store shielded candidates) := by
  induction candidates generalizing projection with
  | nil => exact chosen
  | cons candidate candidates induction =>
      rw [Projection.choose]
      split
      · exact chosen
      split
      · exact induction chosen
      dsimp only
      split
      · exact induction chosen
      rename_i untouched
      apply induction
      have started : Tracks store base
          { projection with victims := projection.victims ++ [candidate] } :=
        ⟨chosen.tracks.nodup, chosen.tracks.present, chosen.tracks.records, chosen.tracks.bytes⟩
      rcases addAll store started (store.subtreeIdsLocked candidate) with ⟨tracks, victims, members⟩
      have inside : ∀ key ∈ store.subtreeIdsLocked candidate, key ∈ store.records.keys := by
        intro key member
        rcases (mem_subtreeIds coherent.indexed candidate key).mp member with ⟨present, under⟩
        rcases Relation.ReflTransGen.cases_head under with rfl | ⟨parent, link, -⟩
        · exact present
        · rcases Option.map_eq_some_iff.mp link with ⟨retained, found, -⟩
          exact Dict.mem_keys_of_get? found
      refine ⟨tracks, fun key => ?_, fun key member => ?_⟩
      · rw [members, victims, chosen.below]
        constructor
        · rintro (⟨victim, earlier, below⟩ | ⟨below, -⟩)
          · exact ⟨victim, List.mem_append_left _ earlier, below⟩
          · exact ⟨candidate, List.mem_append_right _ (List.mem_singleton_self _), below⟩
        · rintro ⟨victim, member, below⟩
          rcases List.mem_append.mp member with earlier | single
          · exact .inl ⟨victim, earlier, below⟩
          · rcases List.mem_singleton.mp single with rfl
            exact .inr ⟨below, inside key below⟩
      · rcases (members key).mp member with earlier | ⟨below, -⟩
        · exact chosen.removable key earlier
        · by_contra held
          apply untouched
          refine ⟨key, below, ?_⟩
          by_contra neither
          rw [not_or, Nat.pos_iff_ne_zero, not_not] at neither
          exact held neither

/-! ## Retention -/

theorem mem_sortIds (ids : List PyStr) (responseId : PyStr) :
    responseId ∈ sortIds ids ↔ responseId ∈ ids := by
  have same := (Json.sortByKey_perm (ids.map fun responseId => (responseId, ()))).map Prod.fst
  rw [sortIds, same.mem_iff, List.map_map]
  simp

theorem climbRetained_sound {store : RetainedResponses τ} {fuel : Nat} {seen result : List PyStr}
    {previous : Option JsonValue} (climbed : store.climbRetained fuel seen previous = some result) :
    previous = none ∧ result = seen ∨
      ∃ parentId line, previous = some (.str parentId) ∧
        Lineage (retainedLinks store) parentId line ∧ result = seen ++ line := by
  induction fuel generalizing seen previous with
  | zero =>
      cases previous with
      | none => exact .inl ⟨rfl, (Option.some.inj climbed).symm⟩
      | some value => cases value <;> cases climbed
  | succ fuel induction =>
      cases previous with
      | none => exact .inl ⟨rfl, (Option.some.inj climbed).symm⟩
      | some value =>
          cases value with
          | str current =>
              rw [climbRetained] at climbed
              split at climbed
              · cases climbed
              cases found : store.records.get? current with
              | none => rw [found] at climbed; cases climbed
              | some parent =>
                  rw [found] at climbed
                  rcases induction climbed with ⟨root, rfl⟩ | ⟨above, line, named, lineage, rfl⟩
                  · refine .inr ⟨current, [current], rfl, .root ?_, rfl⟩
                    simp [links, found, retainedLinkage, previousId_of_none root]
                  · refine .inr ⟨current, current :: line, rfl, .child ?_ lineage, ?_⟩
                    · simp [ChildOf, links, found, retainedLinkage, previousId_of_str named]
                    · rw [List.append_assoc]
                      rfl
          | _ => cases climbed

def Shielded (store : RetainedResponses τ) (responseId : PyStr) (response : JsonObject)
    (other : PyStr) : Prop :=
  other = responseId ∨
    ∃ parentId ∈ previousId response, Under (retainedLinks store) parentId other

theorem retainedAncestorIds_sound {store : RetainedResponses τ} {responseId : PyStr}
    {response : JsonObject} {shielded : List PyStr}
    (climbed : store.retainedAncestorIdsLocked responseId response = some shielded) :
    (∀ other, other ∈ shielded ↔ store.Shielded responseId response other) ∧
      (∀ parentId ∈ previousId response, store.records.get? parentId ≠ none) ∧
      (previousResponse response = none ∨
        ∃ parentId, previousResponse response = some (.str parentId)) := by
  rcases Option.map_eq_some_iff.mp climbed with ⟨above, walked, rfl⟩
  rcases climbRetained_sound walked with ⟨root, rfl⟩ | ⟨parentId, line, named, lineage, rfl⟩
  · have noParent := previousId_of_none root
    exact ⟨fun other => by simp [Shielded, noParent], by simp [noParent], .inl root⟩
  · have parent := previousId_of_str named
    refine ⟨fun other => ?_, ?_, .inr ⟨parentId, named⟩⟩
    · simp [Shielded, parent, ← lineage.mem_iff]
    · intro other same
      rcases Option.some.inj (parent.symm.trans same) with rfl
      exact (links_eq_none _).not.mp lineage.present

/-- A retention that succeeded: what went, and what came. -/
structure Retention (config : LifecycleConfig τ) (store after : RetainedResponses τ)
    (response : JsonObject) (retained : RetainedResponse τ) (responseId : PyStr)
    (evicted gone : List PyStr) : Prop where
  named : wireResponseId response = .ok responseId
  content : retained.response = response
  previous : previousResponse response = none ∨
    ∃ parentId, previousResponse response = some (.str parentId)
  parentRetained : ∀ parentId ∈ previousId response, store.records.get? parentId ≠ none
  removable : ∀ key ∈ gone, ¬store.Shielded responseId response key ∧ store.pinCount key = 0
  placed : ∃ kept : RetainedResponses τ, Pruned (retainedLinkage τ) store kept gone ∧
    after = kept.replaceRetainedLocked responseId retained
  listed : ∀ key, key ∈ evicted ↔ key ∈ gone
  count : after.records.size ≤ config.maxRecords
  budget : after.estimatedBytes ≤ config.maxTotalBytes

theorem replace_bytes (store : RetainedResponses τ) (responseId : PyStr)
    (retained : RetainedResponse τ) :
    (store.replaceRetainedLocked responseId retained).estimatedBytes =
      store.estimatedBytes -
        store.records.weightAt (fun retained => retained.estimatedBytes) responseId +
        retained.estimatedBytes := by
  rw [replaceRetainedLocked]
  change (store.displace (retainedLinkage τ) responseId).estimatedBytes + _ = _
  rw [displace_bytes]
  rfl

theorem replace_total (store : RetainedResponses τ) (responseId : PyStr)
    (retained : RetainedResponse τ) (weight : RetainedResponse τ → Int) :
    (store.replaceRetainedLocked responseId retained).records.total weight =
      store.records.total weight - store.records.weightAt weight responseId + weight retained := by
  rw [replaceRetainedLocked, total_place, total_displace]
  rw [displace_get?, if_pos rfl]

theorem sum_ones {α : Type} (items : List α) :
    (items.map fun _ => (1 : Int)).sum = items.length := by
  induction items with
  | nil => rfl
  | cons item items induction =>
      rw [List.map_cons, List.sum_cons, induction, List.length_cons]
      omega

theorem projected_chosen (store : RetainedResponses τ) (shielded : List PyStr) (responseId : PyStr)
    (estimatedBytes : Nat) :
    Chosen store shielded (store.projected responseId estimatedBytes)
      (store.projected responseId estimatedBytes) where
  tracks := ⟨List.nodup_nil, by simp [projected], by simp [projected], by simp [projected]⟩
  below := fun key => by simp [projected]
  removable := by simp [projected]

/-- What the answer of the projection means. -/
theorem retentionVictims_some {config : LifecycleConfig τ} {store : RetainedResponses τ}
    (coherent : Coherent (retainedLinkage τ) store) {response : JsonObject} {responseId : PyStr}
    (identified : wireResponseId response = .ok responseId) {estimatedBytes : Nat}
    {victims : List PyStr}
    (answered : retentionVictimsLocked config store response estimatedBytes = .ok (some victims)) :
    ∃ shielded projection, store.retainedAncestorIdsLocked responseId response = some shielded ∧
      Chosen store shielded (store.projected responseId estimatedBytes) projection ∧
      projection.fits config ∧ projection.victims = victims := by
  rw [retentionVictimsLocked] at answered
  split at answered
  · cases answered
  rw [identified] at answered
  dsimp only at answered
  cases climbed : store.retainedAncestorIdsLocked responseId response with
  | none => rw [climbed] at answered; cases answered
  | some shielded =>
      rw [climbed] at answered
      have chosen := choose_chosen config coherent shielded store.records.keys
        (projected_chosen store shielded responseId estimatedBytes)
      dsimp only at answered
      split at answered
      · rename_i fits
        exact ⟨shielded, _, rfl, chosen, fits, Option.some.inj (Except.ok.inj answered)⟩
      · cases answered

/-- The size after the victims went and the response came is the projected one. -/
theorem replace_after_victims {store kept : RetainedResponses τ} {shielded : List PyStr}
    {responseId : PyStr} {projection : Projection} (retained : RetainedResponse τ)
    (coherent : Coherent (retainedLinkage τ) store)
    (chosen : Chosen store shielded (store.projected responseId retained.estimatedBytes) projection)
    (pruned : Pruned (retainedLinkage τ) store kept projection.victimIds)
    (stays : responseId ∉ projection.victimIds) :
    ((kept.replaceRetainedLocked responseId retained).records.size : Int) = projection.records ∧
      (kept.replaceRetainedLocked responseId retained).estimatedBytes = projection.bytes := by
  have found : kept.records.get? responseId = store.records.get? responseId := by
    rw [pruned.get?, if_neg stays]
  have removed : ∀ weight : RetainedResponse τ → Int, kept.records.total weight =
      store.records.total weight -
        (projection.victimIds.map (store.records.weightAt weight)).sum := by
    intro weight
    rw [pruned.records, ← Dict.total_keep_not_mem _ chosen.tracks.nodup]
  constructor
  · have each : projection.victimIds.map (store.records.weightAt fun _ => 1) =
        projection.victimIds.map fun _ => 1 := by
      apply List.map_congr_left
      intro key member
      rcases Dict.mem_keys.mp (chosen.tracks.present key member) with ⟨victim, here⟩
      simp [Dict.weightAt, here]
    have weight : kept.records.weightAt (fun _ => 1) responseId =
        if (store.records.get? responseId).isSome then 1 else 0 := by
      rw [Dict.weightAt, found]
      cases store.records.get? responseId <;> rfl
    have counted := chosen.tracks.records
    rw [Dict.size_eq_total, replace_total, removed, each, sum_ones, weight, ← Dict.size_eq_total,
      counted, projected]
    dsimp only
    split <;> omega
  · have weight :
        kept.records.weightAt (fun retained => (retained.estimatedBytes : Int)) responseId =
        ((store.records.get? responseId).map fun retained =>
          (retained.estimatedBytes : Int)).getD 0 := by
      rw [Dict.weightAt, found]
    have summed := chosen.tracks.bytes
    have bytes : kept.estimatedBytes = store.estimatedBytes - (projection.victimIds.map
        (store.records.weightAt fun retained => (retained.estimatedBytes : Int))).sum := by
      have after := (pruned.coherent coherent).bytes
      have before := coherent.bytes
      rw [removed] at after
      rw [before]
      exact after
    rw [replace_bytes, weight, bytes, summed]
    simp only [projected]
    omega

section Retain

variable [Add τ]

theorem retainLocked_retention {config : LifecycleConfig τ} {now : τ}
    {store after : RetainedResponses τ}
    (coherent : Coherent (retainedLinkage τ) store) {response : JsonObject} {evicted : List PyStr}
    (succeeded : store.retainLocked config now response = .ok (some (evicted, after))) :
    ∃ retained responseId gone,
      Retention config store after response retained responseId evicted gone := by
  rw [retainLocked] at succeeded
  cases identified : wireResponseId response with
  | error failure => rw [identified] at succeeded; cases succeeded
  | ok responseId =>
  cases estimated : estimateWireBytes response with
  | error failure => rw [identified, estimated] at succeeded; cases succeeded
  | ok estimatedBytes =>
  cases answered : retentionVictimsLocked config store response estimatedBytes with
  | error failure =>
      simp [identified, estimated, answered, bind, Except.bind] at succeeded
  | ok answer =>
  cases answer with
  | none =>
      simp [identified, estimated, answered, bind, Except.bind, pure, Except.pure] at succeeded
  | some victims =>
      simp only [identified, estimated, answered, bind, Except.bind, pure, Except.pure,
        Except.ok.injEq, Option.some.injEq, Prod.mk.injEq] at succeeded
      rcases succeeded with ⟨rfl, rfl⟩
      rcases retentionVictims_some coherent identified answered with
        ⟨shielded, projection, climbed, chosen, fits, rfl⟩
      rcases retainedAncestorIds_sound climbed with ⟨shields, parents, previous⟩
      rcases evictVictims_swept coherent projection.victims with ⟨gone, swept, listed⟩
      have same : ∀ key, key ∈ gone ↔ key ∈ projection.victimIds := fun key => by
        rw [swept.below, chosen.below]
      have pruned : Pruned (retainedLinkage τ) store (store.evictVictims projection.victims).2
          projection.victimIds :=
        { toRemoved := swept.pruned.toRemoved.congr same
          downward := fun key parent link inside =>
            (same key).mp (swept.pruned.downward key parent link ((same parent).mpr inside)) }
      have stays : responseId ∉ projection.victimIds := fun inside =>
        (chosen.removable responseId inside).1 ((shields responseId).mpr (.inl rfl))
      let retained : RetainedResponse τ := ⟨response, estimatedBytes, now + config.ttlSeconds⟩
      rcases replace_after_victims retained coherent chosen pruned stays with ⟨count, bytes⟩
      refine ⟨retained, responseId, projection.victimIds, identified, rfl, previous, parents, ?_,
        ⟨_, pruned, rfl⟩, ?_, ?_, ?_⟩
      · intro key inside
        rcases chosen.removable key inside with ⟨outside, unpinned⟩
        exact ⟨(shields key).not.mp outside, unpinned⟩
      · intro key
        rw [mem_sortIds, listed, same]
      · have within := fits.1
        rw [← count] at within
        exact_mod_cast within
      · rw [bytes]
        exact fits.2

end Retain

/-! ## Expiry -/

theorem purgeExpiredLocked_pruned [LE τ] [DecidableLE τ] {store : RetainedResponses τ}
    (coherent : Coherent (retainedLinkage τ) store) (now : τ) :
    ∃ gone, Pruned (retainedLinkage τ) store (store.purgeExpiredLocked now) gone ∧
      ∀ key ∈ gone, store.pinCount key = 0 := by
  rw [purgeExpiredLocked]
  generalize (store.records.entries.filter fun entry => decide (entry.2.expiresAt ≤ now)).map
    Prod.fst = expired
  suffices loop : ∀ (current : RetainedResponses τ) gone,
      Pruned (retainedLinkage τ) store current gone → (∀ key ∈ gone, store.pinCount key = 0) →
        ∃ gone, Pruned (retainedLinkage τ) store
          (expired.foldl (fun (store : RetainedResponses τ) responseId =>
          if responseId ∉ store.records.keys then store
          else if ∃ current ∈ store.subtreeIdsLocked responseId,
            0 < store.pinCount current then store
          else (store.removeSubtreeLocked responseId).2) current) gone ∧
          ∀ key ∈ gone, store.pinCount key = 0 from
    loop store [] (.refl coherent.indexed) fun _ none => (List.not_mem_nil none).elim
  induction expired with
  | nil => exact fun _ gone pruned unpinned => ⟨gone, pruned, unpinned⟩
  | cons responseId expired induction =>
      intro current gone pruned unpinned
      rw [List.foldl_cons]
      split
      · exact induction current gone pruned unpinned
      split
      · exact induction current gone pruned unpinned
      · rename_i free
        have indexed := (pruned.coherent coherent).indexed
        apply induction _ _ (pruned.trans (removeSubtreeLocked_pruned indexed responseId))
        intro key member
        by_cases earlier : key ∈ gone
        · exact unpinned key earlier
        · have inside := (List.mem_append.mp member).resolve_left earlier
          rw [← pruned.pinCount earlier]
          by_contra pinned
          exact free ⟨key, inside, Nat.pos_of_ne_zero pinned⟩

end RetainedResponses

/-! ## Every call keeps the invariant -/

theorem response_renew (expiry : τ) (retained : RetainedResponse τ) :
    ((retainedLinkage τ).renew expiry retained).response = retained.response := rfl

namespace RetainedForest

variable {store after : RetainedResponses τ}

theorem empty : RetainedForest (LinkedStore.empty : RetainedResponses τ) where
  coherent := coherent_empty _
  keyed := fun _ _ found => by cases found
  named := fun _ _ found => by cases found

theorem pruned {gone : List PyStr} (forest : RetainedForest store)
    (pruned : Pruned (retainedLinkage τ) store after gone) : RetainedForest after where
  coherent := pruned.coherent forest.coherent
  keyed := fun responseId retained found => by
    rw [pruned.get?] at found
    split at found
    · cases found
    · exact forest.keyed responseId retained found
  named := fun responseId retained found => by
    rw [pruned.get?] at found
    split at found
    · cases found
    · exact forest.named responseId retained found

theorem renewed (forest : RetainedForest store)
    (renewed : RenewedAs (retainedLinkage τ) RetainedResponse.response store after)
    (pinned : ∀ responseId, after.pins.get? responseId ≠ none →
      store.records.get? responseId ≠ none) : RetainedForest after where
  coherent := renewed.same.coherent forest.coherent pinned
  keyed := fun responseId retained found => by
    rcases renewed.records responseId retained found with ⟨before, earlier, response⟩
    rw [← response]
    exact forest.keyed responseId before earlier
  named := fun responseId retained found => by
    rcases renewed.records responseId retained found with ⟨before, earlier, response⟩
    rw [← response]
    exact forest.named responseId before earlier

end RetainedForest

namespace RetainedInvariant

variable {config : LifecycleConfig τ} {store after : RetainedResponses τ}

theorem empty (config : LifecycleConfig τ) : RetainedInvariant config LinkedStore.empty where
  forest := .empty
  count := Nat.zero_le _
  budget := Int.natCast_nonneg _

theorem pruned {gone : List PyStr} (invariant : RetainedInvariant config store)
    (pruned : Pruned (retainedLinkage τ) store after gone) : RetainedInvariant config after where
  forest := invariant.forest.pruned pruned
  count := pruned.size_le.trans invariant.count
  budget := pruned.bytes_le.trans invariant.budget

theorem renewed (invariant : RetainedInvariant config store)
    (renewed : RenewedAs (retainedLinkage τ) RetainedResponse.response store after)
    (pinned : ∀ responseId, after.pins.get? responseId ≠ none →
      store.records.get? responseId ≠ none) : RetainedInvariant config after where
  forest := invariant.forest.renewed renewed pinned
  count := renewed.same.size.le.trans invariant.count
  budget := renewed.same.estimatedBytes.le.trans invariant.budget

/-- The new response names its previous response as the one it replaces did. -/
theorem retention {response : JsonObject} {retained : RetainedResponse τ} {responseId : PyStr}
    {evicted gone : List PyStr} (invariant : RetainedInvariant config store)
    (retention : RetainedResponses.Retention config store after response retained responseId evicted
      gone) (keeps : KeepsPrevious store response) : RetainedInvariant config after := by
  rcases retention.placed with ⟨kept, pruned, placed⟩
  have left := invariant.forest.pruned pruned
  have outside : ∀ key, store.Shielded responseId response key → key ∉ gone :=
    fun key shield inside => (retention.removable key inside).1 shield
  have get? : ∀ other, after.records.get? other =
      if other = responseId then some retained else kept.records.get? other := by
    intro other
    rw [placed, RetainedResponses.replaceRetainedLocked, place, Dict.get?_moveToEnd, Dict.get?_set,
      displace_get?]
    split <;> rfl
  refine ⟨⟨?_, ?_, ?_⟩, retention.count, retention.budget⟩
  · rw [placed]
    apply replace_coherent left.coherent
    · intro old found
      rw [pruned.get?, if_neg (outside responseId (.inl rfl))] at found
      have parent := keeps responseId retention.named old found
      rw [← retention.content] at parent
      exact parent
    · intro parentId named
      have parent : parentId ∈ previousId response := by
        rw [← retention.content]
        exact named
      rw [pruned.get?, if_neg (outside parentId (.inr ⟨parentId, parent, .refl⟩))]
      exact retention.parentRetained parentId parent
  · intro other found inside
    rw [get?] at inside
    split at inside
    · rename_i same
      rw [← Option.some.inj inside, same, retention.content]
      exact retention.named
    · exact left.keyed other found inside
  · intro other found inside
    rw [get?] at inside
    split at inside
    · rw [← Option.some.inj inside, retention.content]
      exact retention.previous
    · exact left.named other found inside

variable [LE τ] [DecidableLE τ]

theorem purge (invariant : RetainedInvariant config store) (now : τ) :
    RetainedInvariant config (store.purgeExpiredLocked now) := by
  rcases RetainedResponses.purgeExpiredLocked_pruned invariant.forest.coherent now with
    ⟨gone, pruned, -⟩
  exact invariant.pruned pruned

variable [Add τ] {σ : Type} {whole : InMemoryResponseLifecycleStore σ τ}

theorem pinChain (invariant : RetainedInvariant config whole.retained) (now : τ)
    (responseId : PyStr) :
    RetainedInvariant config (whole.pinChain config now responseId).2.retained := by
  rw [InMemoryResponseLifecycleStore.pinChain]
  split
  · exact invariant
  have purged := invariant.purge now
  dsimp only
  split
  · exact purged
  · rename_i chain climbed
    apply purged.renewed (.pinAll response_renew _ _ _)
    intro other pinned
    rcases pins_pinAll _ _ _ pinned with before | inside
    · exact purged.forest.coherent.pinned other before
    · rcases RetainedResponses.climbRetained_sound climbed with
        ⟨absurd, -⟩ | ⟨parentId, line, -, lineage, rfl⟩
      · cases absurd
      · exact (links_eq_none _).not.mp (lineage.present_of_mem inside)

theorem finishWithEvictions (invariant : RetainedInvariant config whole.retained) (now : τ)
    (responseId : PyStr) {response : JsonObject}
    (keeps : KeepsPrevious (whole.retained.purgeExpiredLocked now) response) :
    RetainedInvariant config
      (whole.finishWithEvictions config now responseId response).2.retained := by
  have purged := invariant.purge now
  have succeeded : ∀ {evicted retained},
      (whole.retained.purgeExpiredLocked now).retainLocked config now response =
        .ok (some (evicted, retained)) → RetainedInvariant config retained := by
    intro evicted retained answered
    rcases RetainedResponses.retainLocked_retention purged.forest.coherent answered with
      ⟨_, _, _, retention⟩
    exact purged.retention retention keeps
  rw [InMemoryResponseLifecycleStore.finishWithEvictions]
  dsimp only [InMemoryResponseLifecycleStore.purgeExpiredLocked]
  split
  · split
    · split
      · exact purged
      · exact purged
      · rename_i answered
        exact succeeded answered
    · exact purged
  · split
    · exact purged
    · split
      · split
        · exact purged
        · exact purged
        · rename_i answered
          exact succeeded answered
      · exact purged

omit [LE τ] [DecidableLE τ] in
theorem commitPreparedCancel (invariant : RetainedInvariant config whole.retained) (now : τ)
    {prepared : PreparedResponseCancellation σ}
    (keeps : KeepsPrevious whole.retained prepared.cancelled) :
    RetainedInvariant config
      (whole.commitPreparedCancelWithEvictions config now prepared).2.retained := by
  rw [InMemoryResponseLifecycleStore.commitPreparedCancelWithEvictions]
  dsimp only [InMemoryResponseLifecycleStore.abandon]
  split
  · split
    · split
      · exact invariant
      · exact invariant
      · rename_i answered
        rcases RetainedResponses.retainLocked_retention invariant.forest.coherent answered with
          ⟨_, _, _, retention⟩
        exact invariant.retention retention keeps
    · exact invariant
  · split <;> exact invariant

theorem run (invariant : RetainedInvariant config whole.retained) (now : τ)
    {call : LifecycleCall σ} (keeps : call.Keeps now whole) :
    RetainedInvariant config (call.run config now whole).retained := by
  have purged := invariant.purge now
  cases call with
  | pinChain responseId => exact invariant.pinChain now responseId
  | unpinChain responseIds =>
      apply invariant.renewed (.unpinAll _ responseIds)
      intro responseId pinned
      exact invariant.forest.coherent.pinned responseId (pins_unpinAll _ responseIds pinned)
  | canRetain response =>
      dsimp only [LifecycleCall.run, InMemoryResponseLifecycleStore.canRetain]
      split
      · exact invariant
      · exact purged
  | registerActive response session retain =>
      dsimp only [LifecycleCall.run, InMemoryResponseLifecycleStore.registerActive]
      split
      · exact invariant
      · split <;> exact purged
  | updateActive responseId response => exact invariant
  | finish responseId response => exact invariant.finishWithEvictions now responseId keeps
  | abandon responseId => exact invariant
  | discard responseId =>
      dsimp only [LifecycleCall.run, InMemoryResponseLifecycleStore.discard]
      split
      · exact invariant
      · exact invariant.pruned (RetainedResponses.removeSubtreeLocked_pruned
          invariant.forest.coherent.indexed responseId)
  | retrieve responseId =>
      dsimp only [LifecycleCall.run, InMemoryResponseLifecycleStore.retrieve]
      split
      · exact invariant
      split
      · exact purged
      split
      · exact purged
      · exact purged.renewed (.touch response_renew _ _ responseId)
          purged.forest.coherent.pinned
  | prepareCancel responseId =>
      dsimp only [LifecycleCall.run, InMemoryResponseLifecycleStore.prepareCancel]
      split
      · exact invariant
      split
      · split <;> exact purged
      · exact purged
  | commitPreparedCancel prepared => exact invariant.commitPreparedCancel now keeps
  | stats => exact purged

theorem of_reachable (reached : LifecycleReachable config whole) :
    RetainedInvariant config whole.retained := by
  induction reached with
  | initial => exact empty config
  | step _ now call keeps invariant => exact invariant.run now keeps

end RetainedInvariant

/-! ## What runs keep -/

structure LifecycleRepresentation (config : LifecycleConfig τ) (store : RetainedResponses τ) :
    Prop where
  count : store.records.size ≤ config.maxRecords
  bytes : store.estimatedBytes = store.records.total fun retained => retained.estimatedBytes
  budget : store.estimatedBytes ≤ config.maxTotalBytes
  index : ∀ parentId childId, childId ∈ (store.children.get? parentId).getD [] ↔
    ∃ child, store.records.get? childId = some child ∧
      previousResponse child.response = some (.str parentId)
  noEmptyIndex : ∀ parentId, store.children.get? parentId ≠ some []
  ancestors : ∀ responseId retained, store.records.get? responseId = some retained →
    previousResponse retained.response = none ∨
      ∃ parentId parent, previousResponse retained.response = some (.str parentId) ∧
        store.records.get? parentId = some parent
  rooted : ∀ responseId, store.records.get? responseId ≠ none →
    ∃ line, Lineage (retainedLinks store) responseId line

theorem RetainedInvariant.representation {config : LifecycleConfig τ}
    {store : RetainedResponses τ} (invariant : RetainedInvariant config store) :
    LifecycleRepresentation config store where
  count := invariant.count
  bytes := invariant.forest.coherent.bytes
  budget := invariant.budget
  index := fun parentId childId => by
    refine (invariant.forest.coherent.indexed.inverse parentId childId).trans ?_
    constructor
    · intro link
      rcases Option.map_eq_some_iff.mp link with ⟨child, found, named⟩
      rcases invariant.forest.named childId child found with root | ⟨other, previous⟩
      · cases (previousId_of_none root).symm.trans named
      · rcases Option.some.inj ((previousId_of_str previous).symm.trans named) with rfl
        exact ⟨child, found, previous⟩
    · rintro ⟨child, found, previous⟩
      simp [ChildOf, links, found, retainedLinkage, previousId_of_str previous]
  noEmptyIndex := invariant.forest.coherent.indexed.noEmpty
  ancestors := fun responseId retained found => by
    apply (invariant.forest.named responseId retained found).imp_right
    rintro ⟨parentId, previous⟩
    have link : ChildOf (retainedLinks store) responseId parentId := by
      simp [ChildOf, links, found, retainedLinkage, previousId_of_str previous]
    have present :=
      (links_eq_none _).not.mp (invariant.forest.coherent.grounded.parent_present link)
    rcases Option.ne_none_iff_exists'.mp present with ⟨parent, foundParent⟩
    exact ⟨parentId, parent, previous, foundParent⟩
  rooted := fun responseId present =>
    invariant.forest.coherent.grounded responseId ((links_eq_none _).not.mpr present)

/-- Only the ids listed went: neither the new response nor an ancestor of it, and nothing that
is pinned or has something pinned below it. -/
structure RetentionSpares (before after : RetainedResponses τ) (response : JsonObject)
    (evicted : List PyStr) : Prop where
  continued : ∀ responseId, wireResponseId response = .ok responseId →
    ∀ key ∈ evicted, ¬before.Shielded responseId response key
  pinned : ∀ key ∈ evicted, ∀ below, Under (retainedLinks before) below key →
    before.pinCount below = 0
  others : ∀ key, before.records.get? key ≠ none →
    (after.records.get? key = none ↔ key ∈ evicted)

theorem RetentionSpares.refl (store : RetainedResponses τ) (response : JsonObject) :
    RetentionSpares store store response [] where
  continued := fun _ _ _ none => (List.not_mem_nil none).elim
  pinned := fun _ none => (List.not_mem_nil none).elim
  others := fun _ present => iff_of_false present List.not_mem_nil

theorem RetainedResponses.Retention.spares {config : LifecycleConfig τ}
    {before after : RetainedResponses τ} {response : JsonObject} {retained : RetainedResponse τ}
    {responseId : PyStr} {evicted gone : List PyStr}
    (retention : Retention config before after response retained responseId evicted gone) :
    RetentionSpares before after response evicted := by
  rcases retention.placed with ⟨kept, pruned, placed⟩
  refine ⟨fun other identified key inside => ?_, fun key inside below under => ?_,
    fun key present => ?_⟩
  · rcases Except.ok.inj (retention.named.symm.trans identified) with rfl
    exact (retention.removable key ((retention.listed key).mp inside)).1
  · have deeper := pruned.downward.under under ((retention.listed key).mp inside)
    exact (retention.removable below deeper).2
  · rw [retention.listed, placed, replaceRetainedLocked, place, Dict.get?_moveToEnd, Dict.get?_set,
      displace_get?, pruned.get?]
    by_cases new : key = responseId
    · have stays : key ∉ gone := fun inside => (retention.removable key inside).1 (.inl new)
      simp [new, new ▸ stays]
    · by_cases inside : key ∈ gone <;> simp [new, inside, present]

section Runs

variable [Add τ] [LE τ] [DecidableLE τ] {σ : Type} {config : LifecycleConfig τ}

/-- A finish that is refused, or fails, changes nothing retained after the purge. -/
theorem finish_spares {store : InMemoryResponseLifecycleStore σ τ}
    (invariant : RetainedInvariant config store.retained) (now : τ) (responseId : PyStr)
    (response : JsonObject) :
    match (store.finishWithEvictions config now responseId response).1 with
    | .ok (true, evicted) =>
        RetentionSpares (store.retained.purgeExpiredLocked now)
          (store.finishWithEvictions config now responseId response).2.retained response evicted
    | _ => (store.finishWithEvictions config now responseId response).2.retained =
        store.retained.purgeExpiredLocked now := by
  have coherent := (invariant.purge now).forest.coherent
  rw [InMemoryResponseLifecycleStore.finishWithEvictions]
  dsimp only [InMemoryResponseLifecycleStore.purgeExpiredLocked]
  cases store.active.get? responseId with
  | some active =>
      dsimp only
      by_cases retains : active.retain = true
      · rw [if_pos retains]
        cases answered : (store.retained.purgeExpiredLocked now).retainLocked config now response
          with
        | error failure => rfl
        | ok answer =>
            rcases answer with - | ⟨evicted, retained⟩
            · rfl
            · rcases RetainedResponses.retainLocked_retention coherent answered
                with ⟨_, _, _, retention⟩
              exact retention.spares
      · rw [if_neg retains]
        exact .refl _ response
  | none =>
      dsimp only
      cases (store.retained.purgeExpiredLocked now).records.get? responseId with
      | none => exact .refl _ response
      | some kept =>
          dsimp only
          by_cases cancelled : JsonObject.holds kept.response (py "status") (py "cancelled") ∧
              JsonObject.holds response (py "status") (py "cancelled")
          · rw [if_pos cancelled]
            cases answered :
                (store.retained.purgeExpiredLocked now).retainLocked config now response with
            | error failure => rfl
            | ok answer =>
                rcases answer with - | ⟨evicted, retained⟩
                · rfl
                · rcases RetainedResponses.retainLocked_retention coherent answered with
                    ⟨_, _, _, retention⟩
                  exact retention.spares
          · rw [if_neg cancelled]
            exact .refl _ response

omit [LE τ] [DecidableLE τ] in
theorem commitPreparedCancel_spares {store : InMemoryResponseLifecycleStore σ τ}
    (invariant : RetainedInvariant config store.retained) (now : τ)
    (prepared : PreparedResponseCancellation σ) :
    match (store.commitPreparedCancelWithEvictions config now prepared).1 with
    | .ok (_, evicted) =>
        RetentionSpares store.retained
          (store.commitPreparedCancelWithEvictions config now prepared).2.retained
          prepared.cancelled evicted
    | .error _ => (store.commitPreparedCancelWithEvictions config now prepared).2.retained =
        store.retained := by
  rw [InMemoryResponseLifecycleStore.commitPreparedCancelWithEvictions]
  dsimp only [InMemoryResponseLifecycleStore.abandon]
  by_cases current : (store.active.get? prepared.responseId).map ActiveResponse.number =
      some prepared.active.number
  · rw [if_pos current]
    by_cases retains : prepared.active.retain = true
    · rw [if_pos retains]
      cases answered : store.retained.retainLocked config now prepared.cancelled with
      | error failure => rfl
      | ok answer =>
          rcases answer with - | ⟨evicted, retained⟩
          · rfl
          · rcases RetainedResponses.retainLocked_retention invariant.forest.coherent answered with
              ⟨_, _, _, retention⟩
            exact retention.spares
    · rw [if_neg retains]
      exact .refl _ _
  · rw [if_neg current]
    cases store.terminals.get? prepared.active.number <;> exact .refl _ _

theorem lifecycle_keeps_representation {store : InMemoryResponseLifecycleStore σ τ}
    (reached : LifecycleReachable config store) :
    LifecycleRepresentation config store.retained ∧
      (∀ now responseId response,
        match (store.finishWithEvictions config now responseId response).1 with
        | .ok (true, evicted) =>
            RetentionSpares (store.retained.purgeExpiredLocked now)
              (store.finishWithEvictions config now responseId response).2.retained response evicted
        | _ => (store.finishWithEvictions config now responseId response).2.retained =
            store.retained.purgeExpiredLocked now) ∧
      ∀ now prepared,
        match (store.commitPreparedCancelWithEvictions config now prepared).1 with
        | .ok (_, evicted) =>
            RetentionSpares store.retained
              (store.commitPreparedCancelWithEvictions config now prepared).2.retained
              prepared.cancelled evicted
        | .error _ => (store.commitPreparedCancelWithEvictions config now prepared).2.retained =
            store.retained := by
  have invariant := RetainedInvariant.of_reachable reached
  exact ⟨invariant.representation, finish_spares invariant, commitPreparedCancel_spares invariant⟩

end Runs

/-! A response that another one names as its previous one, behind a response that is evicted for it.
The first is pinned, and the second is finished twice. -/

def wireResponse (responseId status : PyStr) (previous : JsonValue) : JsonObject :=
  [(py "id", .str responseId), (py "status", .str status), (py "previous_response_id", previous)]

def olderResponse : JsonObject := wireResponse (py "x") (py "completed") .null

def firstResponse : JsonObject := wireResponse (py "a") (py "completed") .null

def cutResponse : JsonObject := wireResponse (py "b") (py "incomplete") (.str (py "a"))

def secondResponse : JsonObject := wireResponse (py "b") (py "completed") (.str (py "a"))

def smallLifecycle : LifecycleConfig Nat := ⟨2, 5, 1000, by decide, by decide⟩

def finishAt (now : Nat) (responseId : PyStr) (response : JsonObject)
    (store : InMemoryResponseLifecycleStore Unit Nat) : InMemoryResponseLifecycleStore Unit Nat :=
  (LifecycleCall.finish responseId response).run smallLifecycle now
    ((LifecycleCall.registerActive response () true).run smallLifecycle now store)

theorem finishAt_reachable {store : InMemoryResponseLifecycleStore Unit Nat} (now : Nat)
    {responseId : PyStr} {response : JsonObject} (reached : LifecycleReachable smallLifecycle store)
    (keeps : KeepsPrevious (((LifecycleCall.registerActive response ()
      true).run smallLifecycle now store).retained.purgeExpiredLocked now) response) :
    LifecycleReachable smallLifecycle (finishAt now responseId response store) :=
  .step (.step reached now (.registerActive response () true) trivial) now
    (.finish responseId response) keeps

/-- What is new keeps what it names. -/
theorem keepsPrevious_new {retained : RetainedResponses Nat} {response : JsonObject}
    {responseId : PyStr} (named : wireResponseId response = .ok responseId)
    (new : retained.records.get? responseId = none) : KeepsPrevious retained response := by
  intro other same kept found
  rw [named] at same
  cases same
  rw [new] at found
  cases found

def pinnedLifecycle : InMemoryResponseLifecycleStore Unit Nat :=
  (LifecycleCall.pinChain (py "a")).run smallLifecycle 1 (finishAt 1 (py "a") firstResponse
    (finishAt 0 (py "x") olderResponse InMemoryResponseLifecycleStore.empty))

theorem pinnedLifecycle_reachable : LifecycleReachable smallLifecycle pinnedLifecycle := by
  refine .step ?_ 1 (.pinChain (py "a")) trivial
  refine finishAt_reachable 1 (finishAt_reachable 0 .initial ?_) ?_
  · exact @keepsPrevious_new _ _ (py "x") rfl rfl
  · exact @keepsPrevious_new _ _ (py "a") rfl rfl

def continuedLifecycle : InMemoryResponseLifecycleStore Unit Nat :=
  finishAt 3 (py "b") secondResponse (finishAt 2 (py "b") cutResponse pinnedLifecycle)

theorem continuedLifecycle_reachable : LifecycleReachable smallLifecycle continuedLifecycle := by
  refine finishAt_reachable 3 (finishAt_reachable 2 pinnedLifecycle_reachable ?_) ?_
  · exact @keepsPrevious_new _ _ (py "b") rfl rfl
  · intro responseId named kept found
    cases named
    cases found
    rfl

theorem finished_keeps_representation :
    pinnedLifecycle.retained.records.keys = [py "x", py "a"] ∧
      continuedLifecycle.retained.records.keys = [py "a", py "b"] ∧
      continuedLifecycle.retained.pins.get? (py "a") = some 1 ∧
      (continuedLifecycle.retained.records.get? (py "b")).map RetainedResponse.response =
        some secondResponse ∧
      LifecycleRepresentation smallLifecycle continuedLifecycle.retained :=
  ⟨by decide, by decide, by decide, rfl,
    (lifecycle_keeps_representation continuedLifecycle_reachable).1⟩

end ExQServe.State
