import ExQServe.State.AuthorityRuns

/-! # Commits, cancellations and continuations of the response authority

The parts of the methods that decide on the outcome of a response, or read a conversation,
taken through their blocks. -/

namespace ExQServe.State

open ExQServe.Search ExQServe.Model Forest ResponseStateAuthority AuthorityTask

variable {σ τ α β : Type} {thread : Nat}

/-! ## Parts that keep what is known -/

/-- What is known in front of the task is known behind it, however it ends. -/
def Maintains (thread : Nat) (knows : ResponseStateAuthority σ τ → Prop)
    (task : AuthorityTask σ τ α) : Prop :=
  ∀ seen, knows seen → Task.Safe authorityRules thread (fun _ after => knows after) task seen

namespace Maintains

variable {knows : ResponseStateAuthority σ τ → Prop}

theorem of_mild (stays : ∀ first second, LeftAlone thread first second → knows first → knows second)
    {task : AuthorityTask σ τ α} (mild : Task.Mild authorityRules task) :
    Maintains thread knows task := by
  intro seen now
  apply mild.safe
  · exact stays
  · exact now

theorem pure (value : α) : Maintains thread knows (Pure.pure value : AuthorityTask σ τ α) :=
  fun _ now => now

theorem throw (failure : AuthorityFailure) :
    Maintains thread knows (MonadExcept.throw failure : AuthorityTask σ τ α) :=
  fun _ now => now

theorem bind {first : AuthorityTask σ τ β} {next : β → AuthorityTask σ τ α}
    (begins : Maintains thread knows first)
    (continues : ∀ value, Maintains thread knows (next value)) :
    Maintains thread knows (first >>= next) := by
  intro seen now
  apply Coroutine.safe_bind
  apply Task.Safe.weaken ?_ (begins seen now)
  intro result after now
  cases result with
  | ok value => exact continues value after now
  | error failure => exact now

theorem tryCatch {first : AuthorityTask σ τ α} {handler : AuthorityFailure → AuthorityTask σ τ α}
    (begins : Maintains thread knows first)
    (handles : ∀ failure, Maintains thread knows (handler failure)) :
    Maintains thread knows (MonadExcept.tryCatch first handler) := by
  intro seen now
  apply Coroutine.safe_tryCatch
  apply Task.Safe.weaken ?_ (begins seen now)
  intro result after now
  cases result with
  | ok value => exact now
  | error failure => exact handles failure after now

/-- The answer behind the task is fixed. -/
theorem answers {task : AuthorityTask σ τ β} (maintains : Maintains thread knows task) (value : α)
    {seen : ResponseStateAuthority σ τ} (now : knows seen) :
    Task.Safe authorityRules thread (fun result after =>
      knows after ∧ ∀ answer, result = .ok answer → answer = value)
      (task >>= fun _ => Pure.pure value : AuthorityTask σ τ α) seen := by
  apply Coroutine.safe_bind
  apply Task.Safe.weaken ?_ (maintains seen now)
  intro result after now
  cases result with
  | ok done => exact ⟨now, fun answer same => (Except.ok.inj same).symm⟩
  | error failure => exact ⟨now, fun answer absurd => by cases absurd⟩

end Maintains

/-- A part that disturbs nobody leaves the call where it is. -/
theorem maintains_at {place : Option PyStr} {holds commits : Bool} {task : AuthorityTask σ τ α}
    (mild : Task.Mild authorityRules task) :
    Maintains thread (At thread place holds commits) task :=
  .of_mild (fun _ _ => At.stays) mild

/-- Nor does it decide on the response whose transition the call holds. -/
theorem maintains_open {responseId : PyStr} {commits : Bool} {task : AuthorityTask σ τ α}
    (mild : Task.Mild authorityRules task) :
    Maintains thread (Open thread responseId commits) task :=
  .of_mild (fun _ _ => Open.stays) mild

/-! ## The commit of a finished response -/

section Commit

variable [Add τ] [LE τ] [DecidableLE τ] {config : AuthorityConfig τ} {rounds : Nat}
  {responseId : PyStr} {commits : Bool} {seen : ResponseStateAuthority σ τ}

omit [Add τ] in
theorem maintains_discardLocked (shield : Bool) (cause : DropCause) :
    Maintains thread (At thread (some responseId) true commits)
      (discardLocked shield responseId cause : AuthorityTask σ τ Unit) := by
  apply (maintains_at (mild_popPending responseId)).bind
  intro _
  apply Maintains.bind
  · intro seen here
    exact Task.Safe.weaken (fun _ _ undecided => undecided.here) (safe_dropWinner here cause)
  · exact fun _ => (maintains_at (mild_discardState shield responseId)).bind fun _ =>
      maintains_at (mild_discardLifecycle shield responseId)

omit [Add τ] in
theorem undecided_discardLocked (shield : Bool) (cause : DropCause) :
    Maintains thread (Open thread responseId commits)
      (discardLocked shield responseId cause : AuthorityTask σ τ Unit) := by
  apply (maintains_open (mild_popPending responseId)).bind
  intro _
  apply Maintains.bind
  · exact fun seen undecided => safe_dropWinner undecided.here cause
  · exact fun _ => (maintains_open (mild_discardState shield responseId)).bind fun _ =>
      maintains_open (mild_discardLifecycle shield responseId)

theorem safe_completedRecord {pending : Option ResponseRecord}
    (undecided : Open thread responseId commits seen) (staged : StagedFor responseId pending seen) :
    Task.Safe authorityRules thread (fun _ after => Open thread responseId commits after)
      (completedRecord config responseId pending : AuthorityTask σ τ _) seen := by
  cases pending with
  | none =>
      apply (maintains_open
        (mild_stateCall fun now store => .get config.state now store responseId)).bind
      · intro found
        cases found with
        | none =>
            exact (maintains_open (mild_discardLifecycle true responseId)).bind fun _ => .pure none
        | some record => exact .pure _
      · exact undecided
  | some pending =>
      apply Coroutine.safe_bind
      apply Task.Safe.weaken ?_ (safe_commitRecord config undecided staged)
      intro result after undecided
      rcases result with failure | ⟨disposition, evicted⟩
      · exact undecided
      · dsimp only
        split
        · exact ((maintains_open (mild_discardLifecycle true responseId)).bind
            fun _ => .pure none) after undecided
        · exact undecided

theorem safe_commitCompleted {pending : Option ResponseRecord} (response : JsonObject)
    (undecided : Open thread responseId commits seen) (staged : StagedFor responseId pending seen) :
    Task.Safe authorityRules thread (fun _ after => Open thread responseId commits after)
      (commitCompleted config rounds responseId response pending : AuthorityTask σ τ Bool)
        seen := by
  apply Coroutine.safe_bind
  apply Task.Safe.weaken ?_ (safe_completedRecord undecided staged)
  intro result after undecided
  rcases result with failure | _ | ⟨record, stateEvicted⟩
  · exact undecided
  · exact undecided
  · dsimp only
    cases (textOf response (py "model")).filter (record.model = ·) with
    | none =>
        exact ((undecided_discardLocked true .inconsistent).bind fun _ => .pure false) after
          undecided
    | some wireModel =>
        apply ((maintains_open mild_lifecycleCall).bind ?_) after undecided
        rintro ⟨finished, lifecycleEvicted⟩
        cases finished with
        | false =>
            exact (maintains_open (mild_discardState true responseId)).bind fun _ => .pure false
        | true =>
            apply (maintains_open
              (mild_synchronizeEvictions true stateEvicted lifecycleEvicted)).bind
            intro _
            apply (maintains_open
              (mild_chainRounds config true responseId wireModel rounds [] _)).bind
            intro consistent
            cases consistent with
            | false =>
                exact (undecided_discardLocked true .inconsistent).bind fun _ => .pure false
            | true => exact .pure true

theorem undecided_commitOther (response : JsonObject) :
    Maintains thread (Open thread responseId commits)
      (commitOther config responseId response : AuthorityTask σ τ Bool) := by
  apply (maintains_open (mild_discardState true responseId)).bind
  intro _
  apply (maintains_open mild_lifecycleCall).bind
  rintro ⟨finished, lifecycleEvicted⟩
  cases finished with
  | false => exact .pure false
  | true =>
      exact (maintains_open (mild_synchronizeEvictions true [] lifecycleEvicted)).bind fun _ =>
        .pure true

def Commits (thread : Nat) (responseId : PyStr) (response : JsonObject)
    (result : Except AuthorityFailure Bool) (journal : List AuthorityEntry) : Prop :=
  result = .ok true → .decided thread responseId response ∈ journal

theorem saying_commits (response : JsonObject) : Saying (Commits thread responseId response) where
  later _ _ _ extends' before committed := extends'.subset (before committed)
  failure _ _ absurd := by cases absurd

theorem safe_commitRetainedTerminal {pending : Option ResponseRecord} (response : JsonObject)
    (undecided : Open thread responseId false seen) (staged : StagedFor responseId pending seen) :
    Task.Safe authorityRules thread (fun result after =>
      At thread (some responseId) true false after ∧
        Commits thread responseId response result after.journal)
      (commitRetainedTerminal config rounds thread responseId response pending :
        AuthorityTask σ τ Bool) seen := by
  apply safe_committing (saying_commits response) (fun authority =>
    Undecided thread responseId authority ∧ StagedFor responseId pending authority)
  · exact fun _ _ alone known => ⟨known.1.stays alone, known.2.stays alone⟩
  · exact fun authority next known => ⟨⟨known.1.holder, known.1.none⟩, known.2⟩
  · exact undecided.here
  · exact ⟨undecided.undecided, staged⟩
  -- Under both locks.
  rintro state here ⟨known, staged⟩
  have undecided : Open thread responseId true state := ⟨here, known.none⟩
  apply Coroutine.safe_bind
  have both : Maintains thread (fun authority => Open thread responseId true authority ∧
      StagedFor responseId pending authority)
      (lifecycleCall true fun now store => store.canRetain config.lifecycle now response :
        AuthorityTask σ τ Bool) :=
    .of_mild (fun _ _ alone known => ⟨known.1.stays alone, known.2.stays alone⟩) mild_lifecycleCall
  apply Task.Safe.weaken ?_ (both state ⟨undecided, staged⟩)
  rintro result after ⟨undecided, staged⟩
  rcases result with failure | retains
  · exact ⟨undecided.here, (saying_commits response).failure _ _⟩
  cases retains with
  | false =>
      apply Coroutine.safe_bind
      apply Task.Safe.weaken ?_ (maintains_open (mild_discardState true responseId) after undecided)
      intro result after undecided
      rcases result with failure | done
      · exact ⟨undecided.here, (saying_commits response).failure _ _⟩
      apply Task.Safe.weaken ?_
        ((maintains_open (mild_discardLifecycle true responseId)).answers false undecided)
      rintro result after ⟨undecided, never⟩
      exact ⟨undecided.here, fun absurd => by cases never true absurd⟩
  | true =>
      have decides {task : AuthorityTask σ τ Bool} (safe : Task.Safe authorityRules thread
          (fun _ after => Open thread responseId true after) task after) :
          Task.Safe authorityRules thread (fun result after =>
            At thread (some responseId) true true after ∧
              Commits thread responseId response result after.journal)
            (do
              let ready ← task
              if !ready then return false
              setWinner thread responseId response
              return true : AuthorityTask σ τ Bool) after := by
        apply Coroutine.safe_bind
        apply Task.Safe.weaken ?_ safe
        intro result after undecided
        rcases result with failure | ready
        · exact ⟨undecided.here, (saying_commits response).failure _ _⟩
        cases ready with
        | false => exact ⟨undecided.here, fun absurd => by cases absurd⟩
        | true =>
            apply Coroutine.safe_bind
            apply Task.Safe.weaken ?_ (safe_setWinner undecided response)
            rintro result after ⟨here, decided⟩
            rcases result with failure | done
            · exact ⟨here, (saying_commits response).failure _ _⟩
            · exact ⟨here, fun _ => decided⟩
      dsimp only
      rw [if_neg (by simp)]
      split
      · exact decides (safe_commitCompleted response undecided staged)
      · exact decides (undecided_commitOther response after undecided)

def Cancels (thread : Nat) (responseId : PyStr) (result : Except AuthorityFailure JsonObject)
    (journal : List AuthorityEntry) : Prop :=
  ∀ response, result = .ok response → isTerminalStatus response = true →
    .decided thread responseId response ∈ journal

theorem saying_cancels : Saying (Cancels thread responseId) where
  later _ _ _ more before response same terminal := more.subset (before response same terminal)
  failure _ _ _ absurd := by cases absurd

theorem safe_commitPreparedCancel (prepared : PreparedResponseCancellation σ)
    (undecided : Open thread responseId commits seen) :
    Task.Safe authorityRules thread (fun result after =>
      At thread (some responseId) true commits after ∧
        Cancels thread responseId result after.journal)
      (commitPreparedCancel config thread responseId prepared : AuthorityTask σ τ JsonObject)
      seen := by
  have ends {response : JsonObject} {after : ResponseStateAuthority σ τ}
      (undecided : Open thread responseId commits after) :
      Task.Safe authorityRules thread (fun result after =>
        At thread (some responseId) true commits after ∧
          Cancels thread responseId result after.journal)
        (do
          if isTerminalStatus response then
            setWinner thread responseId response
          return response : AuthorityTask σ τ JsonObject) after := by
    split
    · apply Coroutine.safe_bind
      apply Task.Safe.weaken ?_ (safe_setWinner undecided response)
      rintro result after ⟨here, decided⟩
      rcases result with failure | done
      · exact ⟨here, saying_cancels.failure _ _⟩
      · refine ⟨here, ?_⟩
        rintro _ ⟨⟩ _
        exact decided
    · rename_i unended
      refine ⟨undecided.here, ?_⟩
      rintro _ ⟨⟩ terminal
      exact absurd terminal unended
  have synchronized {response : JsonObject} {lifecycleEvicted : List PyStr}
      {after : ResponseStateAuthority σ τ} (undecided : Open thread responseId commits after) :
      Task.Safe authorityRules thread (fun result after =>
        At thread (some responseId) true commits after ∧
          Cancels thread responseId result after.journal)
        (do
          synchronizeEvictions true [] lifecycleEvicted
          if isTerminalStatus response then
            setWinner thread responseId response
          return response : AuthorityTask σ τ JsonObject) after := by
    apply Coroutine.safe_bind
    apply Task.Safe.weaken ?_
      (maintains_open (mild_synchronizeEvictions true [] lifecycleEvicted) after undecided)
    intro result after undecided
    rcases result with failure | done
    · exact ⟨undecided.here, saying_cancels.failure _ _⟩
    · exact ends undecided
  have drops : Maintains thread (Open thread responseId commits)
      (do
        popPending responseId
        discardState true responseId : AuthorityTask σ τ Unit) :=
    (maintains_open (mild_popPending responseId)).bind fun _ =>
      maintains_open (mild_discardState true responseId)
  rw [commitPreparedCancel]
  apply Coroutine.safe_bind
  apply Task.Safe.weaken ?_
    (Maintains.tryCatch (maintains_open mild_lifecycleCall) ?_ seen undecided)
  · intro result after undecided
    rcases result with failure | ⟨response, lifecycleEvicted⟩
    · exact ⟨undecided.here, saying_cancels.failure _ _⟩
    dsimp only
    split
    · apply Coroutine.safe_bind
      apply Task.Safe.weaken ?_ (maintains_open (mild_popPending responseId) after undecided)
      intro result after undecided
      rcases result with failure | done
      · exact ⟨undecided.here, saying_cancels.failure _ _⟩
      apply Coroutine.safe_bind
      apply Task.Safe.weaken ?_ (maintains_open (mild_discardState true responseId) after undecided)
      intro result after undecided
      rcases result with failure | done
      · exact ⟨undecided.here, saying_cancels.failure _ _⟩
      exact synchronized undecided
    · exact synchronized undecided
  · intro failure
    split
    · exact (maintains_open (mild_popPending responseId)).bind fun _ =>
        (maintains_open (mild_discardState true responseId)).bind fun _ => .throw _
    · exact .throw _

theorem safe_cancelTerminal (undecided : Open thread responseId false seen) :
    Task.Safe authorityRules thread (fun result after =>
      At thread (some responseId) true false after ∧
        Cancels thread responseId result after.journal)
      (cancelTerminal config thread responseId : AuthorityTask σ τ JsonObject) seen := by
  apply Coroutine.safe_bind
  apply Task.Safe.weaken ?_ (maintains_open mild_lifecycleCall seen undecided)
  intro result after undecided
  rcases result with failure | ⟨prepared, retain⟩
  · exact ⟨undecided.here, saying_cancels.failure _ _⟩
  apply Coroutine.safe_bind
  apply Task.Safe.weaken ?_
    (maintains_open (mild_quiet fun authority _ => .refl authority) after undecided)
  intro result after undecided
  rcases result with failure | done
  · exact ⟨undecided.here, saying_cancels.failure _ _⟩
  cases retain with
  | false => exact safe_commitPreparedCancel prepared undecided
  | true =>
      dsimp only
      rw [if_pos rfl]
      apply safe_committing saying_cancels (Undecided thread responseId)
      · exact fun _ _ => Undecided.stays
      · exact fun authority next known => ⟨known.holder, known.none⟩
      · exact undecided.here
      · exact undecided.undecided
      · exact fun state here known => safe_commitPreparedCancel prepared ⟨here, known.none⟩

end Commit

/-! ## Continuations -/

/-- Records from a response to the root of its conversation, each the parent of the one before. -/
inductive Ancestry : PyStr → List ResponseRecord → Prop
  | root {record : ResponseRecord} (parent : record.parentResponseId = none) :
      Ancestry record.responseId [record]
  | child {record : ResponseRecord} {parentId : PyStr} {line : List ResponseRecord}
      (parent : record.parentResponseId = some parentId) (above : Ancestry parentId line) :
      Ancestry record.responseId (record :: line)

/-- The items are those of a whole conversation, root first, whose records were staged and
committed, all for one model. -/
def Continues (journal : List AuthorityEntry) (responseId model : PyStr)
    (items : List CanonicalItem) : Prop :=
  ∃ line, Ancestry responseId line ∧
    (∀ record ∈ line, record.model = model ∧ .staged record ∈ journal ∧
      .committed record ∈ journal) ∧
    items = line.reverse.flatMap (·.deltaItems)

theorem Continues.later {first second : List AuthorityEntry} (more : first <+: second)
    {responseId model : PyStr} {items : List CanonicalItem}
    (continues : Continues first responseId model items) :
    Continues second responseId model items := by
  rcases continues with ⟨line, ancestry, records, made⟩
  refine ⟨line, ancestry, fun record member => ?_, made⟩
  rcases records record member with ⟨sameModel, staged, committed⟩
  exact ⟨sameModel, more.subset staged, more.subset committed⟩

/-- The chain of a climb, read as records. -/
theorem ancestry_of_climbed {store : InMemoryResponseStore τ}
    (keyed : ∀ responseId stored, store.records.get? responseId = some stored →
      stored.record.responseId = responseId) {accept : StoredRecord τ → Bool}
    {responseId : PyStr} {chain : List (PyStr × StoredRecord τ)}
    (climbed : LinkedStore.Climbed (storedLinkage τ) store accept responseId chain) :
    Ancestry responseId (chain.map fun entry => entry.2.record) := by
  have lineage := climbed.lineage
  have found := climbed.found
  clear climbed
  induction chain generalizing responseId with
  | nil => cases lineage
  | cons first chain induction =>
      rcases first with ⟨key, stored⟩
      have here := found (key, stored) List.mem_cons_self
      have above := fun entry member => found entry (List.mem_cons_of_mem _ member)
      have id := keyed key stored here
      cases chain with
      | nil =>
          cases lineage with
          | root root =>
              have parent : stored.record.parentResponseId = none := by
                simpa [LinkedStore.links, here, storedLinkage] using root
              rw [← id]
              exact .root parent
          | child child line => cases line
      | cons next chain =>
          cases lineage with
          | @child _ parentId _ child line =>
              have parent : stored.record.parentResponseId = some parentId := by
                simpa [Forest.ChildOf, LinkedStore.links, here, storedLinkage] using child
              rw [← id]
              exact .child parent (induction line above)

section Resolution

variable [Add τ] [LE τ] [DecidableLE τ] {config : AuthorityConfig τ} {rounds : Nat}
  {responseId model : PyStr} {seen : ResponseStateAuthority σ τ}

def ForModel (responseId model : PyStr) (authority : ResponseStateAuthority σ τ) : Prop :=
  ∀ stored, authority.stateStore.records.get? responseId = some stored →
    stored.record.model = model

/-- What `get` returns is what is stored under the id behind it. -/
theorem get_record {store : InMemoryResponseStore τ} {now : τ} {record : ResponseRecord}
    (answered : (store.get config.state now responseId).1 = .ok (some record)) :
    ∀ stored, (store.get config.state now responseId).2.records.get? responseId = some stored →
      stored.record = record := by
  intro stored found
  rw [InMemoryResponseStore.get] at answered found
  split at answered
  · cases answered
  rename_i named
  rw [if_neg named] at found
  dsimp only at answered found
  cases earlier : (store.purgeExpiredLocked now).records.get? responseId with
  | none =>
      rw [earlier] at answered
      cases answered
  | some before =>
      rw [earlier] at answered found
      rcases Retains.refresh config.state now _ responseId responseId
        stored found with ⟨other, foundOther, same⟩
      rw [earlier] at foundOther
      cases foundOther
      cases answered
      exact same.symm

/-- What `materialize` returns is a whole chain of the purged store, for the model of its
first record. -/
theorem materialize_chain {store : InMemoryResponseStore τ} {now : τ} {items : List CanonicalItem}
    (answered : (store.materialize config.state now responseId).1 = .ok (some items)) :
    ∃ first chain, (store.purgeExpiredLocked now).records.get? responseId = some first ∧
      LinkedStore.Climbed (storedLinkage τ) (store.purgeExpiredLocked now)
        (fun stored => decide (stored.record.model = first.record.model)) responseId chain ∧
      items = chain.reverse.flatMap fun entry => entry.2.record.deltaItems := by
  rw [InMemoryResponseStore.materialize] at answered
  split at answered
  · cases answered
  dsimp only at answered
  cases found : (store.purgeExpiredLocked now).records.get? responseId with
  | none =>
      rw [found] at answered
      cases answered
  | some first =>
      rw [found] at answered
      dsimp only at answered
      cases walked : (store.purgeExpiredLocked now).walk first.record.model [] responseId with
      | error stop =>
          rw [walked] at answered
          cases stop <;> cases answered
      | ok chain =>
          rw [walked] at answered
          cases answered
          exact ⟨first, chain, rfl, (LinkedStore.climb_sound walked).1, rfl⟩

omit [Add τ] [LE τ] [DecidableLE τ] in
/-- A call of the state store whose answer says something. -/
theorem safe_stateCall (knows : ResponseStateAuthority σ τ → Prop)
    (stays : ∀ first second, LeftAlone thread first second → knows first → knows second)
    {shield : Bool}
    {call : τ → InMemoryResponseStore τ → Except StoreFailure α × InMemoryResponseStore τ}
    (retains : ∀ now store, Retains store (call now store).2)
    {post : Except AuthorityFailure α → ResponseStateAuthority σ τ → Prop} (known : knows seen)
    (fails : ∀ authority failure, knows authority → post (.error failure) authority)
    (answers : ∀ authority now value, AuthorityInvariant authority → knows authority →
      (call now authority.stateStore).1 = .ok value →
        post (.ok value) { authority with stateStore := (call now authority.stateStore).2 }) :
    Task.Safe authorityRules thread post (stateCall shield call : AuthorityTask σ τ α) seen := by
  apply safe_block knows stays known
  intro authority outside holds known _
  dsimp only
  split
  · exact ⟨holds, fun other _ => .refl other authority, fails authority .cancelled known⟩
  · have quiet : Quiet authority
        { authority with stateStore := (call outside.now authority.stateStore).2 } :=
      ⟨rfl, rfl, rfl, rfl, fun _ _ found => found, retains outside.now authority.stateStore⟩
    refine ⟨quiet.invariant holds, fun other _ => quiet.leftAlone other, ?_⟩
    cases answered : (call outside.now authority.stateStore).1 with
    | ok value => exact answers authority outside.now value holds known answered
    | error failure =>
        exact fails _ (.store failure) (stays _ _ (quiet.leftAlone thread) known)

omit [Add τ] [LE τ] [DecidableLE τ] in
theorem ForModel.stays {first second : ResponseStateAuthority σ τ}
    (alone : LeftAlone thread first second)
    (known : At thread (some responseId) true false first ∧ ForModel responseId model first) :
    At thread (some responseId) true false second ∧ ForModel responseId model second := by
  refine ⟨known.1.stays alone, fun stored found => ?_⟩
  rcases alone.records responseId ((known.1.holder responseId).mpr ⟨rfl, rfl⟩) stored found with
    ⟨earlier, foundEarlier, same⟩
  rw [← same]
  exact known.2 earlier foundEarlier

/-- The reading of a record shows its model. -/
theorem safe_get (here : At thread (some responseId) true false seen) :
    Task.Safe authorityRules thread (fun result after =>
      At thread (some responseId) true false after ∧
        ∀ record, result = .ok (some record) → ForModel responseId record.model after)
      (stateCall false fun now store => store.get config.state now responseId :
        AuthorityTask σ τ (Option ResponseRecord)) seen := by
  apply safe_stateCall _ (fun _ _ => At.stays)
    (fun now store => .get config.state now store responseId) here
  · exact fun authority failure here => ⟨here, fun _ absurd => by cases absurd⟩
  · intro authority now value holds here answered
    refine ⟨⟨here.users, here.holder, here.commit⟩, ?_⟩
    rintro record ⟨⟩ stored found
    rw [get_record answered stored found]

/-- The reading of a conversation whose last record is for the model. -/
theorem safe_materialize (here : At thread (some responseId) true false seen)
    (forModel : ForModel responseId model seen) :
    Task.Safe authorityRules thread (fun result after =>
      At thread (some responseId) true false after ∧
        ∀ items, result = .ok (some items) → Continues after.journal responseId model items)
      (stateCall false fun now store => store.materialize config.state now responseId :
        AuthorityTask σ τ (Option (List CanonicalItem))) seen := by
  apply safe_stateCall _ (fun _ _ => ForModel.stays)
    (fun now store => .materialize config.state now store responseId) ⟨here, forModel⟩
  · exact fun authority failure known => ⟨known.1, fun _ absurd => by cases absurd⟩
  · rintro authority now value holds ⟨here, forModel⟩ answered
    refine ⟨⟨here.users, here.holder, here.commit⟩, ?_⟩
    rintro items ⟨⟩
    rcases materialize_chain answered with ⟨first, chain, found, climbed, made⟩
    -- The purged store has no record that was not committed.
    have stored (key : PyStr) (record : StoredRecord τ)
        (there : (authority.stateStore.purgeExpiredLocked now).records.get? key = some record) :
        record.record.responseId = key ∧ .staged record.record ∈ authority.journal ∧
          .committed record.record ∈ authority.journal := by
      rcases Retains.purge now authority.stateStore key record there with
        ⟨earlier, foundEarlier, same⟩
      rw [← same]
      exact holds.committed key earlier foundEarlier
    have firstModel : first.record.model = model := by
      rcases Retains.purge now authority.stateStore responseId first found with
        ⟨earlier, foundEarlier, same⟩
      rw [← same]
      exact forModel earlier foundEarlier
    refine ⟨chain.map fun entry => entry.2.record,
      ancestry_of_climbed (fun key record there => (stored key record there).1) climbed, ?_, ?_⟩
    · intro record member
      rcases List.mem_map.mp member with ⟨entry, inside, rfl⟩
      rcases stored entry.1 entry.2 (climbed.found entry inside) with ⟨-, staged, committed⟩
      exact ⟨(of_decide_eq_true (climbed.accepted entry inside)).trans firstModel, staged,
        committed⟩
    · rw [made, ← List.map_reverse, List.flatMap_map]

end Resolution

end ExQServe.State
