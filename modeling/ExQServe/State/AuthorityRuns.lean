import ExQServe.State.Authority
import ExQServe.State.StoreInvariant

/-! # Runs of the response authority

What the calls of the authority leave to each other: a block of one call changes the terminal
winner of a response, and the record stored under its id, only while the call holds the
response's transition. -/

namespace ExQServe.State

open ExQServe.Search ExQServe.Model Forest

variable {σ τ : Type}

/-! ## Stores that bring no record of their own -/

/-- Every record was there before. -/
def Retains (before after : InMemoryResponseStore τ) : Prop :=
  ∀ responseId stored, after.records.get? responseId = some stored →
    ∃ earlier, before.records.get? responseId = some earlier ∧ earlier.record = stored.record

namespace Retains

variable {before middle after : InMemoryResponseStore τ}

theorem refl (store : InMemoryResponseStore τ) : Retains store store :=
  fun _ stored found => ⟨stored, found, rfl⟩

theorem trans (first : Retains before middle) (second : Retains middle after) :
    Retains before after := by
  intro responseId stored found
  rcases second responseId stored found with ⟨between, foundBetween, same⟩
  rcases first responseId between foundBetween with ⟨earlier, foundEarlier, sameEarlier⟩
  exact ⟨earlier, foundEarlier, sameEarlier.trans same⟩

theorem foldl {α : Type} {step : InMemoryResponseStore τ → α → InMemoryResponseStore τ}
    (each : ∀ store value, Retains store (step store value)) (values : List α)
    (store : InMemoryResponseStore τ) : Retains store (values.foldl step store) := by
  induction values generalizing store with
  | nil => exact refl store
  | cons value values induction => exact (each store value).trans (induction _)

theorem removeOne (store : InMemoryResponseStore τ) (responseId : PyStr) :
    Retains store (store.removeOneLocked responseId) := by
  intro other stored found
  rw [InMemoryResponseStore.removeOneLocked, LinkedStore.removeOne_records, Dict.get?_erase]
    at found
  split at found
  · cases found
  · exact ⟨stored, found, rfl⟩

theorem removeSubtree (store : InMemoryResponseStore τ) (responseId : PyStr) :
    Retains store (store.removeSubtreeLocked responseId) := foldl removeOne _ store

theorem evict (config : StoreConfig τ) (shielded : List PyStr) (fuel : Nat)
    (store : InMemoryResponseStore τ) :
    Retains store (store.evictToBudgetLocked config shielded fuel).2 := by
  induction fuel generalizing store with
  | zero => exact refl store
  | succ fuel induction =>
      rw [InMemoryResponseStore.evictToBudgetLocked]
      split
      · split
        · exact refl store
        · exact (removeSubtree store _).trans (induction _)
      · exact refl store

variable [Add τ] [LE τ] [DecidableLE τ] (config : StoreConfig τ) (now : τ)

omit [Add τ] in
theorem purge (store : InMemoryResponseStore τ) : Retains store (store.purgeExpiredLocked now) := by
  apply foldl
  intro store responseId
  split
  · exact removeSubtree store responseId
  · exact refl store

omit [LE τ] [DecidableLE τ] in
theorem refresh (store : InMemoryResponseStore τ) (responseId : PyStr) :
    Retains store (store.refresh config now responseId) :=
  (LinkedStore.RenewedAs.touch record_renew store _ responseId).records

theorem get (store : InMemoryResponseStore τ) (responseId : PyStr) :
    Retains store (store.get config now responseId).2 := by
  rw [InMemoryResponseStore.get]
  split
  · exact refl store
  dsimp only
  split
  · exact purge now store
  · exact (purge now store).trans (refresh config now _ responseId)

theorem materialize (store : InMemoryResponseStore τ) (responseId : PyStr) :
    Retains store (store.materialize config now responseId).2 := by
  have purged := purge now store
  rw [InMemoryResponseStore.materialize]
  split
  · exact refl store
  dsimp only
  split
  · exact purged
  split
  · exact purged
  · exact purged.trans (removeSubtree _ responseId)
  · exact purged
  · exact purged.trans (foldl (fun store entry => refresh config now store _) _ _)

theorem pinChain (store : InMemoryResponseStore τ) (responseId : PyStr) :
    Retains store (store.pinChain config now responseId).2 := by
  have purged := purge now store
  rw [InMemoryResponseStore.pinChain]
  split
  · exact refl store
  dsimp only
  split
  · exact purged
  split
  · exact purged
  · exact purged.trans (LinkedStore.RenewedAs.pinAll record_renew _ _ _).records

omit [Add τ] [LE τ] [DecidableLE τ] in
theorem unpinChain (store : InMemoryResponseStore τ) (responseIds : List PyStr) :
    Retains store (store.unpinChain responseIds) := by
  have renewed : Renewed store (store.unpinAll responseIds) := .unpinAll store responseIds
  exact renewed.records

omit [Add τ] in
theorem discard (store : InMemoryResponseStore τ) (responseId : PyStr) :
    Retains store (store.discard now responseId).2 := by
  rw [InMemoryResponseStore.discard]
  split
  · exact refl store
  · exact (purge now store).trans (removeSubtree _ responseId)

/-- A put brings at most its own record. -/
theorem putWithEvictions (store : InMemoryResponseStore τ) (record : ResponseRecord)
    {responseId : PyStr} {stored : StoredRecord τ}
    (found : (store.putWithEvictions config now record).2.records.get? responseId = some stored) :
    (∃ evicted, (store.putWithEvictions config now record).1 = .ok (.stored, evicted) ∧
      responseId = record.responseId ∧ stored.record = record) ∨
    ∃ earlier, store.records.get? responseId = some earlier ∧ earlier.record = stored.record := by
  have purged := purge now store
  rw [InMemoryResponseStore.putWithEvictions] at found ⊢
  cases estimated : estimateResponseRecordBytes record with
  | none =>
      rw [estimated] at found
      exact .inr (refl store responseId stored found)
  | some estimatedBytes =>
  rw [estimated] at found
  dsimp only at found ⊢
  cases refused : InMemoryResponseStore.refusal config (store.purgeExpiredLocked now) record
      estimatedBytes with
  | some disposition =>
      rw [refused] at found
      exact .inr (purged responseId stored found)
  | none =>
  rw [refused] at found
  dsimp only at found ⊢
  cases shield : (store.purgeExpiredLocked now).protectedIds record with
  | error failure =>
      rw [shield] at found
      exact .inr (purged responseId stored found)
  | ok shielded =>
  rw [shield] at found
  dsimp only at found ⊢
  have evicted := evict config shielded
    (((store.purgeExpiredLocked now).replace config now record estimatedBytes).records.size + 1)
    ((store.purgeExpiredLocked now).replace config now record estimatedBytes)
  cases outcome : InMemoryResponseStore.evictToBudgetLocked config shielded
      (((store.purgeExpiredLocked now).replace config now record estimatedBytes).records.size + 1)
      ((store.purgeExpiredLocked now).replace config now record estimatedBytes) with
  | mk fits after =>
  rw [outcome] at found evicted
  cases fits with
  | false => exact .inr (purged responseId stored found)
  | true =>
      rcases evicted responseId stored found with ⟨placed, foundPlaced, same⟩
      rw [InMemoryResponseStore.replace, LinkedStore.place, Dict.get?_moveToEnd, Dict.get?_set]
        at foundPlaced
      split at foundPlaced
      · rename_i here
        cases foundPlaced
        exact .inl ⟨_, rfl, here, same.symm⟩
      · right
        have cleared : Retains store
            (if record.responseId ∈ (store.purgeExpiredLocked now).records.keys
              then (store.purgeExpiredLocked now).removeSubtreeLocked record.responseId
              else store.purgeExpiredLocked now) := by
          split
          · exact purged.trans (removeSubtree _ _)
          · exact purged
        rcases cleared responseId placed foundPlaced with ⟨earlier, foundEarlier, sameEarlier⟩
        exact ⟨earlier, foundEarlier, sameEarlier.trans same⟩

end Retains

/-! ## Journals -/

def AuthorityEntry.outcome (responseId : PyStr) (winner : Option JsonObject) :
    AuthorityEntry → Option JsonObject
  | .decided _ other response => if other = responseId then some response else winner
  | .dropped other _ => if other = responseId then none else winner
  | .staged _ => winner
  | .committed _ => winner

def standing (journal : List AuthorityEntry) (responseId : PyStr) : Option JsonObject :=
  journal.foldl (AuthorityEntry.outcome responseId) none

@[simp] theorem standing_snoc (journal : List AuthorityEntry) (entry : AuthorityEntry)
    (responseId : PyStr) :
    standing (journal ++ [entry]) responseId =
      entry.outcome responseId (standing journal responseId) := by
  simp [standing]

/-- Every decision is the one that stands already, if one does. -/
def Agreeing (journal : List AuthorityEntry) : Prop :=
  ∀ front thread responseId response back,
    journal = front ++ .decided thread responseId response :: back →
      ∀ winner, standing front responseId = some winner → winner = response

theorem Agreeing.nil : Agreeing [] := by
  intro front thread responseId response back split
  simp at split

theorem Agreeing.snoc {journal : List AuthorityEntry} {entry : AuthorityEntry}
    (agreeing : Agreeing journal)
    (next : ∀ thread responseId response, entry = .decided thread responseId response →
      ∀ winner, standing journal responseId = some winner → winner = response) :
    Agreeing (journal ++ [entry]) := by
  intro front thread responseId response back split
  rcases List.eq_nil_or_concat back with rfl | ⟨rest, last, rfl⟩
  · rcases List.append_inj' split rfl with ⟨rfl, same⟩
    exact next thread responseId response (List.cons.inj same).1
  · rw [List.concat_eq_append, ← List.cons_append, ← List.append_assoc] at split
    rcases List.append_inj' split rfl with ⟨rfl, -⟩
    exact agreeing front thread responseId response rest rfl

/-! ## Rules -/

open ResponseStateAuthority AuthorityTask

structure AuthorityInvariant (authority : ResponseStateAuthority σ τ) : Prop where
  agreeing : Agreeing authority.journal
  winners : ∀ responseId,
    authority.terminalWinners.get? responseId = standing authority.journal responseId
  staged : ∀ responseId record, authority.pendingRecords.get? responseId = some record →
    record.responseId = responseId ∧ .staged record ∈ authority.journal
  committed : ∀ responseId stored, authority.stateStore.records.get? responseId = some stored →
    stored.record.responseId = responseId ∧ .staged stored.record ∈ authority.journal ∧
      .committed stored.record ∈ authority.journal
  holders : ∀ responseId holder, authority.holderOf responseId = some holder →
    holder ∈ authority.usersOf responseId
  nodup : ∀ responseId, (authority.usersOf responseId).Nodup
  inUse : ∀ responseId transition, authority.transitions.get? responseId = some transition →
    transition.users ≠ []

structure LeftAlone (thread : Nat) (before after : ResponseStateAuthority σ τ) : Prop where
  journal : before.journal <+: after.journal
  users : ∀ responseId, thread ∈ after.usersOf responseId ↔ thread ∈ before.usersOf responseId
  holder : ∀ responseId,
    after.holderOf responseId = some thread ↔ before.holderOf responseId = some thread
  commit : after.retainedCommit = some thread ↔ before.retainedCommit = some thread
  winners : ∀ responseId, before.holderOf responseId = some thread →
    after.terminalWinners.get? responseId = before.terminalWinners.get? responseId
  records : ∀ responseId, before.holderOf responseId = some thread →
    ∀ stored, after.stateStore.records.get? responseId = some stored →
      ∃ earlier, before.stateStore.records.get? responseId = some earlier ∧
        earlier.record = stored.record

namespace LeftAlone

theorem refl (thread : Nat) (authority : ResponseStateAuthority σ τ) :
    LeftAlone thread authority authority where
  journal := List.prefix_rfl
  users _ := Iff.rfl
  holder _ := Iff.rfl
  commit := Iff.rfl
  winners _ _ := rfl
  records _ _ stored found := ⟨stored, found, rfl⟩

theorem trans {thread : Nat} {first second third : ResponseStateAuthority σ τ}
    (before : LeftAlone thread first second) (after : LeftAlone thread second third) :
    LeftAlone thread first third where
  journal := before.journal.trans after.journal
  users responseId := (after.users responseId).trans (before.users responseId)
  holder responseId := (after.holder responseId).trans (before.holder responseId)
  commit := after.commit.trans before.commit
  winners responseId held :=
    (after.winners responseId ((before.holder responseId).mpr held)).trans
      (before.winners responseId held)
  records responseId held stored found := by
    rcases after.records responseId ((before.holder responseId).mpr held) stored found with
      ⟨middle, foundMiddle, same⟩
    rcases before.records responseId held middle foundMiddle with
      ⟨earlier, foundEarlier, sameEarlier⟩
    exact ⟨earlier, foundEarlier, sameEarlier.trans same⟩

end LeftAlone

def authorityRules : Discipline (ResponseStateAuthority σ τ) where
  invariant := AuthorityInvariant
  others := LeftAlone
  refl := LeftAlone.refl
  trans _ _ _ _ := LeftAlone.trans

/-- Where a call is: in which transition, whether it holds its lock, and whether it holds the
lock of retained commits. -/
structure At (thread : Nat) (place : Option PyStr) (holds commits : Bool)
    (authority : ResponseStateAuthority σ τ) : Prop where
  users : ∀ responseId, thread ∈ authority.usersOf responseId ↔ place = some responseId
  holder : ∀ responseId,
    authority.holderOf responseId = some thread ↔ place = some responseId ∧ holds = true
  commit : authority.retainedCommit = some thread ↔ commits = true

theorem At.stays {thread : Nat} {place : Option PyStr} {holds commits : Bool}
    {before after : ResponseStateAuthority σ τ} (alone : LeftAlone thread before after)
    (here : At thread place holds commits before) : At thread place holds commits after where
  users responseId := (alone.users responseId).trans (here.users responseId)
  holder responseId := (alone.holder responseId).trans (here.holder responseId)
  commit := alone.commit.trans here.commit

/-! ## Blocks that disturb nobody -/

/-- The block changes no lock and no winner, records nothing, and brings no record. -/
structure Quiet (before after : ResponseStateAuthority σ τ) : Prop where
  transitions : after.transitions = before.transitions
  commit : after.retainedCommit = before.retainedCommit
  winners : after.terminalWinners = before.terminalWinners
  journal : after.journal = before.journal
  pending : ∀ responseId record, after.pendingRecords.get? responseId = some record →
    before.pendingRecords.get? responseId = some record
  records : Retains before.stateStore after.stateStore

namespace Quiet

variable {before after : ResponseStateAuthority σ τ}

theorem refl (authority : ResponseStateAuthority σ τ) : Quiet authority authority :=
  ⟨rfl, rfl, rfl, rfl, fun _ _ found => found, .refl _⟩

theorem leftAlone (quiet : Quiet before after) (thread : Nat) : LeftAlone thread before after where
  journal := by rw [quiet.journal]
  users responseId := by simp [usersOf, transitionOf, quiet.transitions]
  holder responseId := by simp [holderOf, transitionOf, quiet.transitions]
  commit := by rw [quiet.commit]
  winners _ _ := by rw [quiet.winners]
  records responseId _ := quiet.records responseId

theorem invariant (quiet : Quiet before after) (holds : AuthorityInvariant before) :
    AuthorityInvariant after where
  agreeing := by
    rw [quiet.journal]
    exact holds.agreeing
  winners := by
    rw [quiet.journal, quiet.winners]
    exact holds.winners
  staged responseId record found := by
    rw [quiet.journal]
    exact holds.staged responseId record (quiet.pending responseId record found)
  committed responseId stored found := by
    rcases quiet.records responseId stored found with ⟨earlier, foundEarlier, same⟩
    rw [quiet.journal, ← same]
    exact holds.committed responseId earlier foundEarlier
  holders := by
    simp only [holderOf, usersOf, transitionOf, quiet.transitions]
    exact holds.holders
  nodup := by
    simp only [usersOf, transitionOf, quiet.transitions]
    exact holds.nodup
  inUse := by
    rw [quiet.transitions]
    exact holds.inUse

theorem popPending (authority : ResponseStateAuthority σ τ) (responseId : PyStr) :
    Quiet authority
      { authority with pendingRecords := authority.pendingRecords.erase responseId } where
  transitions := rfl
  commit := rfl
  winners := rfl
  journal := rfl
  pending other record found := by
    rw [Dict.get?_erase] at found
    split at found
    · cases found
    · exact found
  records := .refl _

end Quiet

section Mild

variable {κ α β : Type}

theorem mild_quiet {ready : ResponseStateAuthority σ τ → Bool}
    {run : ResponseStateAuthority σ τ → AuthorityOutside τ →
      Except AuthorityFailure α × ResponseStateAuthority σ τ}
    (quiet : ∀ authority outside, Quiet authority (run authority outside).2) :
    Task.Mild authorityRules (Coroutine.when ready run : AuthorityTask σ τ α) := by
  apply Coroutine.mild_when
  intro authority outside holds
  exact ⟨(quiet authority outside).invariant holds, (quiet authority outside).leftAlone⟩

theorem mild_change {run : ResponseStateAuthority σ τ → ResponseStateAuthority σ τ}
    (quiet : ∀ authority, Quiet authority (run authority)) :
    Task.Mild authorityRules (change run : AuthorityTask σ τ Unit) :=
  mild_quiet fun authority _ => quiet authority

theorem mild_interruptible : Task.Mild authorityRules (interruptible : AuthorityTask σ τ Unit) :=
  mild_quiet fun authority _ => .refl authority

theorem mild_shielded {part : AuthorityTask σ τ α} (mild : Task.Mild authorityRules part) :
    Task.Mild authorityRules (shielded part) :=
  Coroutine.mild_bind mild fun _ =>
    Coroutine.mild_bind mild_interruptible fun _ => Coroutine.mild_pure _

theorem mild_stateCall {shield : Bool}
    {call : τ → InMemoryResponseStore τ → Except StoreFailure α × InMemoryResponseStore τ}
    (retains : ∀ now store, Retains store (call now store).2) :
    Task.Mild authorityRules (stateCall shield call : AuthorityTask σ τ α) := by
  apply mild_quiet
  intro authority outside
  split
  · exact .refl authority
  · exact ⟨rfl, rfl, rfl, rfl, fun _ _ found => found, retains outside.now authority.stateStore⟩

theorem mild_lifecycleCall {shield : Bool}
    {call : τ → InMemoryResponseLifecycleStore σ τ →
      Except LifecycleFailure α × InMemoryResponseLifecycleStore σ τ} :
    Task.Mild authorityRules (lifecycleCall shield call : AuthorityTask σ τ α) := by
  apply mild_quiet
  intro authority outside
  split
  · exact .refl authority
  · exact ⟨rfl, rfl, rfl, rfl, fun _ _ found => found, .refl _⟩

theorem mild_forEach {values : List β} {body : β → AuthorityTask σ τ Unit}
    (mild : ∀ value, Task.Mild authorityRules (body value)) :
    Task.Mild authorityRules (forEach values body) := by
  induction values with
  | nil => exact Coroutine.mild_pure ()
  | cons value values induction => exact Coroutine.mild_bind (mild value) fun _ => induction

theorem mild_popPending (responseId : PyStr) :
    Task.Mild authorityRules (popPending responseId : AuthorityTask σ τ Unit) :=
  mild_change fun authority => .popPending authority responseId

theorem mild_unpinChains (stateIds lifecycleIds : List PyStr) :
    Task.Mild authorityRules (unpinChains stateIds lifecycleIds : AuthorityTask σ τ Unit) := by
  apply mild_shielded
  apply Coroutine.mild_bind
  · exact mild_stateCall fun _ store => .unpinChain store stateIds
  · exact fun _ => mild_lifecycleCall

theorem mild_releaseContinuationPins (ownerId : PyStr) :
    Task.Mild authorityRules (releaseContinuationPins ownerId : AuthorityTask σ τ Unit) := by
  apply Coroutine.mild_bind
  · apply mild_quiet
    intro authority outside
    exact ⟨rfl, rfl, rfl, rfl, fun _ _ found => found, .refl _⟩
  · intro pins
    cases pins with
    | none => exact Coroutine.mild_pure ()
    | some pins => exact mild_unpinChains pins.1 pins.2

variable [Add τ] [LE τ] [DecidableLE τ]

omit [Add τ] in
theorem mild_discardState (shield : Bool) (responseId : PyStr) :
    Task.Mild authorityRules (discardState shield responseId : AuthorityTask σ τ Unit) :=
  mild_stateCall fun now store => .discard now store responseId

omit [Add τ] [LE τ] [DecidableLE τ] in
theorem mild_discardLifecycle (shield : Bool) (responseId : PyStr) :
    Task.Mild authorityRules (discardLifecycle shield responseId : AuthorityTask σ τ Unit) :=
  mild_lifecycleCall

omit [Add τ] [LE τ] [DecidableLE τ] in
theorem mild_discardDescendants (shield : Bool) (descendants : List PyStr) :
    Task.Mild authorityRules (discardDescendants shield descendants : AuthorityTask σ τ Unit) :=
  mild_forEach (mild_discardLifecycle shield)

omit [Add τ] in
theorem mild_synchronizeEvictions (shield : Bool) (stateEvicted lifecycleEvicted : List PyStr) :
    Task.Mild authorityRules
      (synchronizeEvictions shield stateEvicted lifecycleEvicted : AuthorityTask σ τ Unit) :=
  Coroutine.mild_bind (mild_forEach (mild_discardLifecycle shield)) fun _ =>
    mild_forEach (mild_discardState shield)

theorem mild_chainRounds (config : AuthorityConfig τ) (shield : Bool) (responseId model : PyStr)
    (rounds : Nat) (descendants : List PyStr) (current : Option PyStr) :
    Task.Mild authorityRules
      (chainRounds config shield responseId model rounds descendants current :
        AuthorityTask σ τ Bool) := by
  have gives (descendants : List PyStr) (first : PyStr) : Task.Mild authorityRules (do
      discardState shield first
      discardDescendants shield descendants
      return false : AuthorityTask σ τ Bool) :=
    Coroutine.mild_bind (mild_discardState shield first) fun _ =>
      Coroutine.mild_bind (mild_discardDescendants shield descendants) fun _ =>
        Coroutine.mild_pure false
  induction rounds generalizing descendants current with
  | zero =>
      cases current with
      | none => exact Coroutine.mild_pure true
      | some current => exact mild_quiet fun authority _ => .refl authority
  | succ rounds induction =>
      cases current with
      | none => exact Coroutine.mild_pure true
      | some current =>
          rw [chainRounds]
          split
          · exact gives descendants responseId
          apply Coroutine.mild_bind
          · exact mild_stateCall fun now store => .get config.state now store current
          intro record
          cases record.filter (·.model = model) with
          | none => exact gives descendants responseId
          | some record =>
              apply Coroutine.mild_bind mild_lifecycleCall
              intro response
              cases response.filter fun response =>
                  isCompleted response && JsonObject.holds response (py "model") model with
              | none =>
                  exact Coroutine.mild_bind (mild_discardState shield current) fun _ =>
                    Coroutine.mild_bind (mild_discardLifecycle shield current) fun _ =>
                      Coroutine.mild_bind (mild_discardDescendants shield descendants) fun _ =>
                        Coroutine.mild_pure false
              | some response => exact induction _ _

end Mild

/-! ## Blocks at a lock -/

section Locks

variable {before after : ResponseStateAuthority σ τ} {thread : Nat} {responseId : PyStr}

@[simp] theorem transitionOf_setTransition (authority : ResponseStateAuthority σ τ)
    (responseId other : PyStr) (transition : ResponseTransition) :
    (authority.setTransition responseId transition).transitionOf other =
      if other = responseId then transition else authority.transitionOf other := by
  rw [setTransition, transitionOf, Dict.get?_set]
  split
  · rfl
  · rfl

/-- The block only changes what its own call has to do with the transitions. -/
structure Relocked (thread : Nat) (before after : ResponseStateAuthority σ τ) : Prop where
  rest : { before with transitions := after.transitions } = after
  users : ∀ other, other ≠ thread → ∀ responseId,
    other ∈ after.usersOf responseId ↔ other ∈ before.usersOf responseId
  holder : ∀ other, other ≠ thread → ∀ responseId,
    after.holderOf responseId = some other ↔ before.holderOf responseId = some other
  holders : ∀ responseId holder, after.holderOf responseId = some holder →
    holder ∈ after.usersOf responseId
  nodup : ∀ responseId, (after.usersOf responseId).Nodup
  inUse : ∀ responseId transition, after.transitions.get? responseId = some transition →
    transition.users ≠ []

namespace Relocked

theorem leftAlone (relocked : Relocked thread before after) {other : Nat} (apart : other ≠ thread) :
    LeftAlone other before after where
  journal := by rw [← relocked.rest]
  users := relocked.users other apart
  holder := relocked.holder other apart
  commit := by rw [← relocked.rest]
  winners _ _ := by rw [← relocked.rest]
  records _ _ stored found := by
    rw [← relocked.rest] at found
    exact ⟨stored, found, rfl⟩

theorem invariant (relocked : Relocked thread before after) (holds : AuthorityInvariant before) :
    AuthorityInvariant after where
  agreeing := by
    rw [← relocked.rest]
    exact holds.agreeing
  winners := by
    rw [← relocked.rest]
    exact holds.winners
  staged := by
    rw [← relocked.rest]
    exact holds.staged
  committed := by
    rw [← relocked.rest]
    exact holds.committed
  holders := relocked.holders
  nodup := relocked.nodup
  inUse := relocked.inUse

theorem commit (relocked : Relocked thread before after) :
    after.retainedCommit = before.retainedCommit := by rw [← relocked.rest]

theorem journal (relocked : Relocked thread before after) : after.journal = before.journal := by
  rw [← relocked.rest]

end Relocked

/-- One transition is replaced by another with the same holders and users but for the call. -/
theorem relocked_setTransition (holds : AuthorityInvariant before) {transition : ResponseTransition}
    (users : ∀ other, other ≠ thread →
      (other ∈ transition.users ↔ other ∈ before.usersOf responseId))
    (holder : ∀ other, other ≠ thread →
      (transition.holder = some other ↔ before.holderOf responseId = some other))
    (inside : ∀ holder, transition.holder = some holder → holder ∈ transition.users)
    (nodup : transition.users.Nodup) (used : transition.users ≠ []) :
    Relocked thread before (before.setTransition responseId transition) where
  rest := rfl
  users other apart other' := by
    rw [usersOf, transitionOf_setTransition]
    split
    · rename_i same
      subst same
      exact users other apart
    · rfl
  holder other apart other' := by
    rw [holderOf, transitionOf_setTransition]
    split
    · rename_i same
      subst same
      exact holder other apart
    · rfl
  holders other := by
    rw [holderOf, usersOf, transitionOf_setTransition]
    split
    · exact inside
    · exact holds.holders other
  nodup other := by
    rw [usersOf, transitionOf_setTransition]
    split
    · exact nodup
    · exact holds.nodup other
  inUse other found stands := by
    rw [setTransition, Dict.get?_set] at stands
    split at stands
    · cases stands
      exact used
    · exact holds.inUse other found stands

theorem enter_relocked (responseId : PyStr) (holds : AuthorityInvariant before)
    (here : At thread none false false before) :
    Relocked thread before (before.enter thread responseId) ∧
      At thread (some responseId) false false (before.enter thread responseId) := by
  have absent : thread ∉ before.usersOf responseId := by simp [here.users]
  have relocked : Relocked thread before (before.enter thread responseId) := by
    apply relocked_setTransition holds
    · intro other apart
      simp [usersOf, apart]
    · exact fun other apart => Iff.rfl
    · intro holder holding
      exact List.mem_append_left _ (holds.holders responseId holder holding)
    · exact List.nodup_append.mpr ⟨holds.nodup responseId, by simp, by
        rintro user member _ (_ | ⟨_, ⟨⟩⟩) rfl
        exact absent member⟩
    · simp
  refine ⟨relocked, ?_, ?_, ?_⟩
  · intro other
    rw [enter, usersOf, transitionOf_setTransition]
    split
    · rename_i same
      simp [same]
    · rename_i apart
      simpa [usersOf, Ne.symm apart] using here.users other
  · intro other
    rw [enter, holderOf, transitionOf_setTransition]
    split
    · simpa [holderOf] using here.holder responseId
    · simpa [holderOf] using here.holder other
  · rw [relocked.commit]
    exact here.commit

theorem setHolder_relocked (holds : AuthorityInvariant before) (held next : Bool)
    (here : At thread (some responseId) held false before)
    (free : before.holderOf responseId = if held then some thread else none) :
    Relocked thread before (before.setHolder (if next then some thread else none) responseId) ∧
      At thread (some responseId) next false
        (before.setHolder (if next then some thread else none) responseId) := by
  have inside : thread ∈ before.usersOf responseId := (here.users responseId).mpr rfl
  have relocked : Relocked thread before
      (before.setHolder (if next then some thread else none) responseId) := by
    apply relocked_setTransition holds
    · exact fun other apart => Iff.rfl
    · intro other apart
      rw [free]
      cases held <;> cases next <;> simp [Ne.symm apart]
    · intro holder holding
      cases next with
      | false => cases holding
      | true =>
          cases holding
          exact inside
    · exact holds.nodup responseId
    · exact List.ne_nil_of_mem inside
  refine ⟨relocked, ?_, ?_, ?_⟩
  · intro other
    rw [setHolder, usersOf, transitionOf_setTransition]
    split
    · rename_i same
      subst same
      exact here.users other
    · exact here.users other
  · intro other
    rw [setHolder, holderOf, transitionOf_setTransition]
    split
    · rename_i same
      subst same
      cases next <;> simp
    · rename_i apart
      have elsewhere := here.holder other
      simp only [Option.some.injEq, Ne.symm apart, false_and, iff_false] at elsewhere ⊢
      exact elsewhere
  · rw [relocked.commit]
    exact here.commit

theorem usersOf_leave (authority : ResponseStateAuthority σ τ) (thread : Nat)
    (responseId other : PyStr) :
    (authority.leave thread responseId).usersOf other =
      if other = responseId then (authority.usersOf responseId).erase thread
      else authority.usersOf other := by
  rw [leave]
  split
  · rename_i empty
    rw [usersOf, transitionOf, Dict.get?_erase]
    split
    · exact empty.symm
    · rfl
  · rw [usersOf, transitionOf_setTransition]
    split
    · rfl
    · rfl

theorem holderOf_leave (authority : ResponseStateAuthority σ τ) {thread : Nat} {responseId : PyStr}
    (free : (authority.usersOf responseId).erase thread = [] →
      authority.holderOf responseId = none) (other : PyStr) :
    (authority.leave thread responseId).holderOf other = authority.holderOf other := by
  rw [leave]
  split
  · rename_i empty
    rw [holderOf, transitionOf, Dict.get?_erase]
    split
    · rename_i same
      subst same
      exact (free empty).symm
    · rfl
  · rw [holderOf, transitionOf_setTransition]
    split
    · rename_i same
      subst same
      rfl
    · rfl

theorem leave_relocked (holds : AuthorityInvariant before)
    (here : At thread (some responseId) false false before) :
    Relocked thread before (before.leave thread responseId) ∧
      At thread none false false (before.leave thread responseId) := by
  have nodup := holds.nodup responseId
  have stays (other : Nat) (apart : other ≠ thread) :
      other ∈ (before.usersOf responseId).erase thread ↔ other ∈ before.usersOf responseId :=
    nodup.mem_erase_iff.trans (and_iff_right apart)
  have others (holder : Nat) (holding : before.holderOf responseId = some holder) :
      holder ≠ thread := by
    rintro rfl
    simpa using (here.holder responseId).mp holding
  have free : (before.usersOf responseId).erase thread = [] →
      before.holderOf responseId = none := by
    intro empty
    cases holding : before.holderOf responseId with
    | none => rfl
    | some holder =>
        have inside := (stays holder (others holder holding)).mpr
          (holds.holders responseId holder holding)
        rw [empty] at inside
        cases inside
  have relocked : Relocked thread before (before.leave thread responseId) := by
    refine ⟨?_, ?_, ?_, ?_, ?_, ?_⟩
    · rw [leave]
      split
      · rfl
      · rfl
    · intro other apart other'
      rw [usersOf_leave]
      split
      · rename_i same
        subst same
        exact stays other apart
      · rfl
    · intro other apart other'
      rw [holderOf_leave before free]
    · intro other holder holding
      rw [holderOf_leave before free] at holding
      rw [usersOf_leave]
      split
      · rename_i same
        subst same
        exact (stays holder (others holder holding)).mpr (holds.holders _ holder holding)
      · exact holds.holders other holder holding
    · intro other
      rw [usersOf_leave]
      split
      · exact nodup.erase thread
      · exact holds.nodup other
    · intro other transition stands
      rw [leave] at stands
      split at stands
      · rw [Dict.get?_erase] at stands
        split at stands
        · cases stands
        · exact holds.inUse other transition stands
      · rename_i used
        rw [setTransition, Dict.get?_set] at stands
        split at stands
        · cases stands
          exact used
        · exact holds.inUse other transition stands
  refine ⟨relocked, ?_, ?_, ?_⟩
  · intro other
    rw [usersOf_leave]
    split
    · simp [nodup.mem_erase_iff]
    · rename_i apart
      simpa [Ne.symm apart] using here.users other
  · intro other
    rw [holderOf_leave before free, here.holder other]
    simp
  · rw [relocked.commit]
    exact here.commit

/-- The lock of retained commits changes hands between a call and nobody. -/
theorem commit_leftAlone {next : Option Nat} (mine : next = some thread ∨ next = none)
    (free : before.retainedCommit = some thread ∨ before.retainedCommit = none) {other : Nat}
    (apart : other ≠ thread) :
    LeftAlone other before { before with retainedCommit := next } where
  journal := List.prefix_rfl
  users _ := Iff.rfl
  holder _ := Iff.rfl
  commit := by
    rcases mine with rfl | rfl <;> rcases free with free | free <;>
      simp [free, Ne.symm apart]
  winners _ _ := rfl
  records _ _ stored found := ⟨stored, found, rfl⟩

theorem commit_invariant (holds : AuthorityInvariant before) (next : Option Nat) :
    AuthorityInvariant { before with retainedCommit := next } :=
  ⟨holds.agreeing, holds.winners, holds.staged, holds.committed, holds.holders, holds.nodup,
    holds.inUse⟩

end Locks

/-! ## Parts that hold a lock -/

section Held

variable {thread : Nat} {α : Type}

/-- One block of a call that knows something of the state. -/
theorem safe_block (knows : ResponseStateAuthority σ τ → Prop)
    (stays : ∀ first second, LeftAlone thread first second → knows first → knows second)
    {ready : ResponseStateAuthority σ τ → Bool}
    {run : ResponseStateAuthority σ τ → AuthorityOutside τ →
      Except AuthorityFailure α × ResponseStateAuthority σ τ}
    {post : Except AuthorityFailure α → ResponseStateAuthority σ τ → Prop}
    {seen : ResponseStateAuthority σ τ} (now : knows seen)
    (block : ∀ authority outside, AuthorityInvariant authority → knows authority →
      ready authority = true →
        AuthorityInvariant (run authority outside).2 ∧
        (∀ other, other ≠ thread → LeftAlone other authority (run authority outside).2) ∧
        post (run authority outside).1 (run authority outside).2) :
    Task.Safe authorityRules thread post (Coroutine.when ready run : AuthorityTask σ τ α) seen := by
  apply Task.safe_when
  intro authority outside alone holds isReady
  exact block authority outside holds (stays seen authority alone now) isReady

structure Saying (promise : Except AuthorityFailure α → List AuthorityEntry → Prop) : Prop where
  later : ∀ result first second, first <+: second → promise result first → promise result second
  failure : ∀ failure journal, promise (.error failure) journal

variable {promise : Except AuthorityFailure α → List AuthorityEntry → Prop}
  {responseId : PyStr} {body : AuthorityTask σ τ α} {seen : ResponseStateAuthority σ τ}

theorem safe_holding (saying : Saying promise)
    (here : At thread (some responseId) false false seen)
    (safe : ∀ state, At thread (some responseId) true false state →
      Task.Safe authorityRules thread (fun result after =>
        At thread (some responseId) true false after ∧ promise result after.journal) body state) :
    Task.Safe authorityRules thread (fun result after =>
      At thread (some responseId) false false after ∧ promise result after.journal)
      (holding thread responseId body) seen := by
  apply Coroutine.safe_bind
  apply safe_block _ (fun _ _ => At.stays) here
  intro authority outside holds here _
  refine ⟨holds, fun other _ => .refl other authority, ?_⟩
  dsimp only
  split
  · apply Coroutine.safe_bind
    apply safe_block _ (fun _ _ => At.stays) here
    intro authority outside holds here free
    rcases setHolder_relocked holds false true here (by simpa using free) with ⟨relocked, held⟩
    refine ⟨relocked.invariant holds, fun other => relocked.leftAlone, ?_⟩
    apply Coroutine.safe_ensuring
    apply Task.Safe.weaken ?_ (safe _ held)
    rintro result state ⟨there, told⟩
    apply safe_block (fun state =>
      At thread (some responseId) true false state ∧ promise result state.journal)
      (fun _ _ alone known => ⟨known.1.stays alone, saying.later _ _ _ alone.journal known.2⟩)
      ⟨there, told⟩
    rintro authority outside holds ⟨there, told⟩ -
    rcases setHolder_relocked holds true false there
      ((there.holder responseId).mpr ⟨rfl, rfl⟩) with ⟨relocked, released⟩
    exact ⟨relocked.invariant holds, fun other => relocked.leftAlone, released, told⟩
  · exact ⟨here, saying.failure _ _⟩

theorem safe_transition (saying : Saying promise) (here : At thread none false false seen)
    (safe : ∀ state, At thread (some responseId) true false state →
      Task.Safe authorityRules thread (fun result after =>
        At thread (some responseId) true false after ∧ promise result after.journal) body state) :
    Task.Safe authorityRules thread (fun result after =>
      At thread none false false after ∧ promise result after.journal)
      (transition thread responseId body) seen := by
  apply Coroutine.safe_bind
  apply safe_block _ (fun _ _ => At.stays) here
  intro authority outside holds here _
  rcases enter_relocked responseId holds here with ⟨entered, inside⟩
  refine ⟨entered.invariant holds, fun other => entered.leftAlone, ?_⟩
  apply Coroutine.safe_ensuring
  apply Task.Safe.weaken ?_ (safe_holding saying inside safe)
  rintro result state ⟨there, told⟩
  apply safe_block (fun state =>
    At thread (some responseId) false false state ∧ promise result state.journal)
    (fun _ _ alone known => ⟨known.1.stays alone, saying.later _ _ _ alone.journal known.2⟩)
    ⟨there, told⟩
  rintro authority outside holds ⟨there, told⟩ -
  rcases leave_relocked holds there with ⟨left, gone⟩
  refine ⟨left.invariant holds, fun other => left.leftAlone, gone, ?_⟩
  change promise result (authority.leave thread responseId).journal
  rw [left.journal]
  exact told

/-- What is known in front of the lock of retained commits is known under it. -/
theorem safe_committing {shield : Bool} {place : Option PyStr} {holds : Bool}
    (saying : Saying promise) (knows : ResponseStateAuthority σ τ → Prop)
    (stays : ∀ first second, LeftAlone thread first second → knows first → knows second)
    (locked : ∀ authority next, knows authority → knows { authority with retainedCommit := next })
    (here : At thread place holds false seen) (now : knows seen)
    (safe : ∀ state, At thread place holds true state → knows state →
      Task.Safe authorityRules thread (fun result after =>
        At thread place holds true after ∧ promise result after.journal) body state) :
    Task.Safe authorityRules thread (fun result after =>
      At thread place holds false after ∧ promise result after.journal)
      (committing thread shield body) seen := by
  have both (first second : ResponseStateAuthority σ τ) (alone : LeftAlone thread first second)
      (known : At thread place holds false first ∧ knows first) :
      At thread place holds false second ∧ knows second :=
    ⟨known.1.stays alone, stays first second alone known.2⟩
  have waits (state : ResponseStateAuthority σ τ)
      (known : At thread place holds false state ∧ knows state) :
      Task.Safe authorityRules thread (fun result after =>
        At thread place holds false after ∧ promise result after.journal)
        ((do
          Coroutine.when (fun authority => authority.retainedCommit = none) fun authority _ =>
            (.ok (), { authority with retainedCommit := some thread })
          Coroutine.ensuring body
            (change fun authority => { authority with retainedCommit := none })) :
          AuthorityTask σ τ α) state := by
    apply Coroutine.safe_bind
    apply safe_block _ both known
    rintro authority outside invariant ⟨here, now⟩ free
    refine ⟨commit_invariant invariant _, fun other => commit_leftAlone (.inl rfl)
      (.inr (by simpa using free)), ?_⟩
    have held : At thread place holds true { authority with retainedCommit := some thread } :=
      ⟨here.users, here.holder, by simp⟩
    apply Coroutine.safe_ensuring
    apply Task.Safe.weaken ?_ (safe _ held (locked _ _ now))
    rintro result state ⟨there, told⟩
    apply safe_block (fun state =>
      At thread place holds true state ∧ promise result state.journal)
      (fun _ _ alone known => ⟨known.1.stays alone, saying.later _ _ _ alone.journal known.2⟩)
      ⟨there, told⟩
    rintro authority outside invariant ⟨there, told⟩ -
    exact ⟨commit_invariant invariant _, fun other => commit_leftAlone (.inr rfl)
      (.inl (there.commit.mpr rfl)), ⟨there.users, there.holder, by simp⟩, told⟩
  cases shield with
  | true => exact waits seen ⟨here, now⟩
  | false =>
      apply Coroutine.safe_bind
      apply safe_block _ both ⟨here, now⟩
      intro authority outside invariant known _
      refine ⟨invariant, fun other _ => .refl other authority, ?_⟩
      dsimp only
      split
      · exact waits authority known
      · exact ⟨known.1, saying.failure _ _⟩

end Held

/-! ## Blocks that need the transition of a response -/

section Transitions

variable {thread : Nat} {responseId : PyStr} {commits : Bool}
  {before seen : ResponseStateAuthority σ τ}

/-- One winner changes, for whose response the transition is held. -/
theorem winner_leftAlone (here : At thread (some responseId) true commits before) {other : Nat}
    (apart : other ≠ thread) {winners : Dict PyStr JsonObject} (entry : AuthorityEntry)
    (same : ∀ key, key ≠ responseId → winners.get? key = before.terminalWinners.get? key) :
    LeftAlone other before ({ before with terminalWinners := winners }.record entry) where
  journal := List.prefix_append _ _
  users _ := Iff.rfl
  holder _ := Iff.rfl
  commit := Iff.rfl
  winners key held := by
    apply same
    rintro rfl
    have mine := (here.holder key).mpr ⟨rfl, rfl⟩
    rw [held] at mine
    exact apart (Option.some.inj mine)
  records _ _ stored found := ⟨stored, found, rfl⟩

theorem winner_invariant (holds : AuthorityInvariant before) {winners : Dict PyStr JsonObject}
    {entry : AuthorityEntry}
    (agrees : ∀ thread responseId response, entry = .decided thread responseId response →
      ∀ winner, before.terminalWinners.get? responseId = some winner → winner = response)
    (next : ∀ key, winners.get? key = entry.outcome key (before.terminalWinners.get? key)) :
    AuthorityInvariant ({ before with terminalWinners := winners }.record entry) where
  agreeing := holds.agreeing.snoc fun thread responseId response same winner stands =>
    agrees thread responseId response same winner ((holds.winners responseId).trans stands)
  winners key := by
    rw [record, standing_snoc, ← holds.winners key]
    exact next key
  staged key pending found := by
    rcases holds.staged key pending found with ⟨same, staged⟩
    exact ⟨same, List.mem_append_left _ staged⟩
  committed key stored found := by
    rcases holds.committed key stored found with ⟨same, staged, committed⟩
    exact ⟨same, List.mem_append_left _ staged, List.mem_append_left _ committed⟩
  holders := holds.holders
  nodup := holds.nodup
  inUse := holds.inUse

structure Open (thread : Nat) (responseId : PyStr) (commits : Bool)
    (authority : ResponseStateAuthority σ τ) : Prop where
  here : At thread (some responseId) true commits authority
  none : authority.terminalWinners.get? responseId = none

theorem Open.stays {first second : ResponseStateAuthority σ τ}
    (alone : LeftAlone thread first second) (undecided : Open thread responseId commits first) :
    Open thread responseId commits second where
  here := undecided.here.stays alone
  none := (alone.winners responseId ((undecided.here.holder responseId).mpr ⟨rfl, rfl⟩)).trans
    undecided.none

/-- What stays of it in front of the lock of retained commits. -/
structure Undecided (thread : Nat) (responseId : PyStr) (authority : ResponseStateAuthority σ τ) :
    Prop where
  holder : authority.holderOf responseId = some thread
  none : authority.terminalWinners.get? responseId = none

theorem Undecided.stays {first second : ResponseStateAuthority σ τ}
    (alone : LeftAlone thread first second) (undecided : Undecided thread responseId first) :
    Undecided thread responseId second where
  holder := (alone.holder responseId).mpr undecided.holder
  none := (alone.winners responseId undecided.holder).trans undecided.none

theorem Open.undecided (known : Open thread responseId commits before) :
    Undecided thread responseId before :=
  ⟨(known.here.holder responseId).mpr ⟨rfl, rfl⟩, known.none⟩

theorem safe_setWinner (undecided : Open thread responseId commits seen) (response : JsonObject) :
    Task.Safe authorityRules thread (fun _ after =>
      At thread (some responseId) true commits after ∧
        .decided thread responseId response ∈ after.journal)
      (setWinner thread responseId response : AuthorityTask σ τ Unit) seen := by
  apply safe_block _ (fun _ _ => Open.stays) undecided
  intro authority outside holds undecided _
  refine ⟨?_, ?_, ⟨undecided.here.users, undecided.here.holder, undecided.here.commit⟩, ?_⟩
  · apply winner_invariant holds
    · rintro _ _ _ ⟨⟩ winner stands
      rw [undecided.none] at stands
      cases stands
    · intro key
      rw [Dict.get?_set]
      simp [AuthorityEntry.outcome, eq_comm]
  · intro other apart
    apply winner_leftAlone undecided.here apart
    intro key different
    rw [Dict.get?_set, if_neg different]
  · exact List.mem_append_right _ (List.mem_singleton_self _)

theorem safe_dropWinner (here : At thread (some responseId) true commits seen) (cause : DropCause) :
    Task.Safe authorityRules thread (fun _ after => Open thread responseId commits after)
      (dropWinner responseId cause : AuthorityTask σ τ Unit) seen := by
  apply safe_block _ (fun _ _ => At.stays) here
  intro authority outside holds here _
  refine ⟨?_, ?_, ⟨here.users, here.holder, here.commit⟩, ?_⟩
  · apply winner_invariant holds
    · rintro _ _ _ ⟨⟩
    · intro key
      rw [Dict.get?_erase]
      simp [AuthorityEntry.outcome, eq_comm]
  · intro other apart
    apply winner_leftAlone here apart
    intro key different
    rw [Dict.get?_erase, if_neg different]
  · exact (Dict.get?_erase _ _ _).trans (if_pos rfl)

/-- The record that is to be committed was staged under the response's id. -/
def StagedFor (responseId : PyStr) (pending : Option ResponseRecord)
    (authority : ResponseStateAuthority σ τ) : Prop :=
  ∀ record ∈ pending, record.responseId = responseId ∧ .staged record ∈ authority.journal

theorem StagedFor.none (authority : ResponseStateAuthority σ τ) :
    StagedFor responseId Option.none authority := by
  intro record member
  cases member

theorem StagedFor.stays {pending : Option ResponseRecord}
    {first second : ResponseStateAuthority σ τ} (alone : LeftAlone thread first second)
    (staged : StagedFor responseId pending first) :
    StagedFor responseId pending second := by
  intro record member
  rcases staged record member with ⟨same, before⟩
  exact ⟨same, alone.journal.subset before⟩

/-- The winner that stands is recorded once more; without one the response is undecided. -/
theorem safe_standingWinner {pending : Option ResponseRecord}
    (here : At thread (some responseId) true commits seen)
    (staged : StagedFor responseId pending seen) :
    Task.Safe authorityRules thread (fun result after =>
      match result with
      | .ok (some winner) => At thread (some responseId) true commits after ∧
          .decided thread responseId winner ∈ after.journal
      | _ => Open thread responseId commits after ∧ StagedFor responseId pending after)
      (standingWinner thread responseId : AuthorityTask σ τ (Option JsonObject)) seen := by
  apply safe_block (fun authority =>
      At thread (some responseId) true commits authority ∧ StagedFor responseId pending authority)
    (fun _ _ alone known => ⟨known.1.stays alone, known.2.stays alone⟩) ⟨here, staged⟩
  rintro authority outside holds ⟨here, staged⟩ -
  dsimp only
  cases stands : authority.terminalWinners.get? responseId with
  | none => exact ⟨holds, fun other _ => .refl other authority, ⟨here, stands⟩, staged⟩
  | some winner =>
      refine ⟨?_, ?_, ⟨here.users, here.holder, here.commit⟩, ?_⟩
      · apply winner_invariant holds
        · rintro _ _ _ ⟨⟩ other found
          rw [stands] at found
          exact (Option.some.inj found).symm
        · intro key
          rw [AuthorityEntry.outcome]
          split
          · rename_i same
            rw [← same, stands]
          · rfl
      · exact fun other apart => winner_leftAlone here apart _ fun _ _ => rfl
      · exact List.mem_append_right _ (List.mem_singleton_self _)

/-- `put` stages its record. -/
theorem safe_stage {record : ResponseRecord}
    (here : At thread (some record.responseId) true commits seen) :
    Task.Safe authorityRules thread (fun _ after =>
      At thread (some record.responseId) true commits after)
      (change fun authority =>
        ({ authority with
          pendingRecords := authority.pendingRecords.set record.responseId record }).record
            (.staged record) : AuthorityTask σ τ Unit) seen := by
  apply safe_block _ (fun _ _ => At.stays) here
  intro authority outside holds here _
  refine ⟨?_, ?_, ⟨here.users, here.holder, here.commit⟩⟩
  · constructor
    · exact holds.agreeing.snoc fun _ _ _ absurd => by cases absurd
    · intro key
      simpa [ResponseStateAuthority.record, AuthorityEntry.outcome] using holds.winners key
    · intro key pending found
      change (authority.pendingRecords.set record.responseId record).get? key = some pending
        at found
      rw [Dict.get?_set] at found
      split at found
      · rename_i same
        cases found
        exact ⟨same.symm, List.mem_append_right _ (List.mem_singleton_self _)⟩
      · rcases holds.staged key pending found with ⟨same, staged⟩
        exact ⟨same, List.mem_append_left _ staged⟩
    · intro key stored found
      rcases holds.committed key stored found with ⟨same, staged, committed⟩
      exact ⟨same, List.mem_append_left _ staged, List.mem_append_left _ committed⟩
    · exact holds.holders
    · exact holds.nodup
    · exact holds.inUse
  · intro other apart
    exact ⟨List.prefix_append _ _, fun _ => Iff.rfl, fun _ => Iff.rfl, Iff.rfl, fun _ _ => rfl,
      fun _ _ stored found => ⟨stored, found, rfl⟩⟩

variable [Add τ] [LE τ] [DecidableLE τ] (config : AuthorityConfig τ)

/-- The record of a staged completion is committed. -/
theorem safe_commitRecord {record : ResponseRecord}
    (undecided : Open thread responseId commits seen)
    (staged : StagedFor responseId (some record) seen) :
    Task.Safe authorityRules thread (fun _ after => Open thread responseId commits after)
      (commitRecord config record : AuthorityTask σ τ _) seen := by
  apply safe_block (fun authority => Open thread responseId commits authority ∧
      StagedFor responseId (some record) authority)
    (fun _ _ alone known => ⟨known.1.stays alone, known.2.stays alone⟩) ⟨undecided, staged⟩
  rintro authority outside holds ⟨undecided, staged⟩ -
  rcases staged record rfl with ⟨named, staged⟩
  have held := (undecided.here.holder responseId).mpr ⟨rfl, rfl⟩
  rcases answered : authority.stateStore.putWithEvictions config.state outside.now record with
    ⟨result, stateStore⟩
  have put (key : PyStr) (stored : StoredRecord τ)
      (found : stateStore.records.get? key = some stored) :
      (∃ evicted, result = .ok (.stored, evicted) ∧ key = record.responseId ∧
        stored.record = record) ∨
      ∃ earlier, authority.stateStore.records.get? key = some earlier ∧
        earlier.record = stored.record := by
    have whole := @Retains.putWithEvictions τ _ _ _ config.state outside.now authority.stateStore
      record key stored
    rw [answered] at whole
    exact whole found
  have refused (notStored : ∀ evicted, result ≠ .ok (.stored, evicted)) :
      Quiet authority { authority with stateStore } := by
    refine ⟨rfl, rfl, rfl, rfl, fun _ _ found => found, ?_⟩
    intro key stored found
    rcases put key stored found with ⟨evicted, stored, -⟩ | earlier
    · exact absurd stored (notStored evicted)
    · exact earlier
  have unchanged (quiet : Quiet authority { authority with stateStore }) :
      AuthorityInvariant { authority with stateStore } ∧
      (∀ other, other ≠ thread → LeftAlone other authority { authority with stateStore }) ∧
      Open thread responseId commits { authority with stateStore } :=
    ⟨quiet.invariant holds, fun other _ => quiet.leftAlone other,
      undecided.stays (quiet.leftAlone thread)⟩
  cases result with
  | error failure =>
      exact unchanged (refused fun _ absurd => by cases absurd)
  | ok outcome =>
      rcases outcome with ⟨disposition, evicted⟩
      cases disposition with
      | stored =>
          refine ⟨?_, ?_, ⟨⟨undecided.here.users, undecided.here.holder, undecided.here.commit⟩,
            undecided.none⟩⟩
          · constructor
            · exact holds.agreeing.snoc fun _ _ _ absurd => by cases absurd
            · intro key
              simpa [ResponseStateAuthority.record, AuthorityEntry.outcome] using holds.winners key
            · intro key pending found
              rcases holds.staged key pending found with ⟨same, before⟩
              exact ⟨same, List.mem_append_left _ before⟩
            · intro key stored found
              rcases put key stored found with ⟨-, -, same, made⟩ | ⟨earlier, foundEarlier, same⟩
              · rw [made]
                exact ⟨same.symm, List.mem_append_left _ staged,
                  List.mem_append_right _ (List.mem_singleton_self _)⟩
              · rcases holds.committed key earlier foundEarlier with ⟨id, before, committed⟩
                rw [same] at id before committed
                exact ⟨id, List.mem_append_left _ before, List.mem_append_left _ committed⟩
            · exact holds.holders
            · exact holds.nodup
            · exact holds.inUse
          · intro other apart
            refine ⟨List.prefix_append _ _, fun _ => Iff.rfl, fun _ => Iff.rfl, Iff.rfl,
              fun _ _ => rfl, ?_⟩
            intro key otherHolds stored found
            rcases put key stored found with ⟨-, -, same, -⟩ | earlier
            · rw [same, named, held] at otherHolds
              exact absurd (Option.some.inj otherHolds).symm apart
            · exact earlier
      | _ => exact unchanged (refused fun _ absurd => by cases absurd)

end Transitions

end ExQServe.State
