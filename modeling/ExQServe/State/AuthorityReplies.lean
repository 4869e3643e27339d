import ExQServe.State.AuthorityAgreement

/-! # What the replies of the response authority promise

Every method is taken through its blocks once. Three things follow for every run: the calls
that answer with the terminal outcome of a response agree until it is dropped, a continuation
is resolved to records that were committed, and no call leaves a lock behind. -/

namespace ExQServe.State

open ExQServe.Search ExQServe.Model Forest ResponseStateAuthority AuthorityTask

variable {σ τ α β : Type} {thread : Nat}

def Answers (thread : Nat) (result : Except AuthorityFailure AuthorityReply)
    (journal : List AuthorityEntry) : Prop :=
  match result with
  | .ok (.finished responseId true response) => .decided thread responseId response ∈ journal
  | .ok (.cancelled responseId response) =>
      isTerminalStatus response = true → .decided thread responseId response ∈ journal
  | .ok (.resolved (some responseId) model items) => Continues journal responseId model items
  | _ => True

theorem saying_answers : Saying (Answers thread) where
  later result first second more before := by
    rcases result with failure | reply
    · trivial
    cases reply with
    | finished responseId committed response =>
        cases committed with
        | false => trivial
        | true => exact more.subset before
    | cancelled responseId response => exact fun terminal => more.subset (before terminal)
    | resolved responseId model items =>
        cases responseId with
        | none => trivial
        | some responseId => exact before.later more
    | _ => trivial
  failure _ _ := trivial

/-! ## Bodies of the methods -/

/-- From what is known the task comes back to it, with a reply that keeps its promise. -/
def Replies (thread : Nat) (knows : ResponseStateAuthority σ τ → Prop)
    (task : AuthorityTask σ τ AuthorityReply) : Prop :=
  ∀ seen, knows seen → Task.Safe authorityRules thread
    (fun result after => knows after ∧ Answers thread result after.journal) task seen

namespace Replies

variable {knows : ResponseStateAuthority σ τ → Prop}

theorem pure {reply : AuthorityReply} (holds : ∀ journal, Answers thread (.ok reply) journal) :
    Replies thread knows (Pure.pure reply : AuthorityTask σ τ AuthorityReply) :=
  fun seen now => ⟨now, holds seen.journal⟩

theorem throw (failure : AuthorityFailure) :
    Replies thread knows (MonadExcept.throw failure : AuthorityTask σ τ AuthorityReply) :=
  fun _ now => ⟨now, trivial⟩

/-- What comes behind a failure is not run. -/
theorem throws (failure : AuthorityFailure) {next : β → AuthorityTask σ τ AuthorityReply} :
    Replies thread knows (MonadExcept.throw failure >>= next) :=
  fun _ now => ⟨now, trivial⟩

theorem bind {first : AuthorityTask σ τ β} {next : β → AuthorityTask σ τ AuthorityReply}
    (begins : Maintains thread knows first)
    (continues : ∀ value, Replies thread knows (next value)) :
    Replies thread knows (first >>= next) := by
  intro seen now
  apply Coroutine.safe_bind
  apply Task.Safe.weaken ?_ (begins seen now)
  intro result after now
  cases result with
  | ok value => exact continues value after now
  | error failure => exact ⟨now, trivial⟩

/-- A cleanup that only keeps what is known leaves the reply as it is. -/
theorem ensuring {first : AuthorityTask σ τ AuthorityReply} {cleanup : AuthorityTask σ τ Unit}
    (stays : ∀ first second, LeftAlone thread first second → knows first → knows second)
    (replies : Replies thread knows first) (mild : Task.Mild authorityRules cleanup) :
    Replies thread knows (Coroutine.ensuring first cleanup) := by
  intro seen now
  apply Coroutine.safe_ensuring
  apply Task.Safe.weaken ?_ (replies seen now)
  rintro result after ⟨now, told⟩
  have kept : Maintains thread
      (fun state => knows state ∧ Answers thread result state.journal) cleanup :=
    .of_mild (fun first second alone known =>
      ⟨stays first second alone known.1, saying_answers.later _ _ _ alone.journal known.2⟩) mild
  apply Task.Safe.weaken ?_ (kept after ⟨now, told⟩)
  rintro cleaned last ⟨now, told⟩
  cases cleaned with
  | ok done => exact ⟨now, told⟩
  | error failure => exact ⟨now, trivial⟩

theorem transition {responseId : PyStr} {body : AuthorityTask σ τ AuthorityReply}
    (replies : Replies thread (At thread (some responseId) true false) body) :
    Replies thread (At thread none false false)
      (AuthorityTask.transition thread responseId body) :=
  fun _ here => safe_transition saying_answers here replies

end Replies

section Methods

variable {responseId : PyStr}

/-- A method that reads or changes something under the transition, without a promise. -/
theorem replies_plain {part : AuthorityTask σ τ α} {reply : α → AuthorityReply}
    (mild : Task.Mild authorityRules part)
    (holds : ∀ value journal, Answers thread (.ok (reply value)) journal) :
    Replies thread (At thread none false false)
      (AuthorityTask.transition thread responseId (do return reply (← part)) :
        AuthorityTask σ τ AuthorityReply) :=
  .transition (.bind (maintains_at mild) fun value => .pure (holds value))

theorem replies_put (record : ResponseRecord) :
    Replies thread (At thread none false false)
      (put thread record : AuthorityTask σ τ AuthorityReply) :=
  .transition (.bind (fun _ here => safe_stage here) fun _ => .pure fun _ => trivial)

theorem maintains_dropWinner (cause : DropCause) :
    Maintains thread (At thread (some responseId) true false)
      (dropWinner responseId cause : AuthorityTask σ τ Unit) :=
  fun _ here => Task.Safe.weaken (fun _ _ undecided => undecided.here) (safe_dropWinner here cause)

/-- A part behind a shield that promises something, and the wait for it. -/
theorem safe_shielded {knows : ResponseStateAuthority σ τ → Prop}
    (stays : ∀ first second, LeftAlone thread first second → knows first → knows second)
    {promise : Except AuthorityFailure α → List AuthorityEntry → Prop} (saying : Saying promise)
    {part : AuthorityTask σ τ α} {seen : ResponseStateAuthority σ τ}
    (safe : Task.Safe authorityRules thread
      (fun result after => knows after ∧ promise result after.journal) part seen) :
    Task.Safe authorityRules thread (fun result after => knows after ∧ promise result after.journal)
      (shielded part) seen := by
  apply Coroutine.safe_bind
  apply Task.Safe.weaken ?_ safe
  rintro result after ⟨now, told⟩
  cases result with
  | error failure => exact ⟨now, told⟩
  | ok value =>
      have kept : Maintains thread (fun state => knows state ∧ promise (.ok value) state.journal)
          (interruptible : AuthorityTask σ τ Unit) :=
        .of_mild (fun first second alone known =>
          ⟨stays first second alone known.1, saying.later _ _ _ alone.journal known.2⟩)
          mild_interruptible
      apply Coroutine.safe_bind
      apply Task.Safe.weaken ?_ (kept after ⟨now, told⟩)
      rintro cleaned last ⟨now, told⟩
      cases cleaned with
      | ok done => exact ⟨now, told⟩
      | error failure => exact ⟨now, saying.failure _ _⟩

/-- The record that is taken from the pending ones was staged under the response's id. -/
theorem safe_takePending {seen : ResponseStateAuthority σ τ}
    (here : At thread (some responseId) true false seen) :
    Task.Safe authorityRules thread (fun result after =>
      At thread (some responseId) true false after ∧
        ∀ pending, result = .ok pending → StagedFor responseId pending after)
      (step fun authority => (authority.pendingRecords.get? responseId,
        { authority with pendingRecords := authority.pendingRecords.erase responseId }) :
        AuthorityTask σ τ (Option ResponseRecord)) seen := by
  apply safe_block _ (fun _ _ => At.stays) here
  intro authority outside holds here _
  have quiet := Quiet.popPending authority responseId
  refine ⟨quiet.invariant holds, fun other _ => quiet.leftAlone other,
    ⟨here.users, here.holder, here.commit⟩, ?_⟩
  rintro _ ⟨⟩ record found
  exact holds.staged responseId record found

variable [LE τ] [DecidableLE τ]

theorem replies_discard (responseId : PyStr) :
    Replies thread (At thread none false false)
      (discard thread responseId : AuthorityTask σ τ AuthorityReply) :=
  .transition (.bind (maintains_discardLocked false .discarded) fun _ => .pure fun _ => trivial)

theorem replies_registerActive (response : JsonObject) (session : σ) (retain : Bool) :
    Replies thread (At thread none false false)
      (registerActive thread response session retain : AuthorityTask σ τ AuthorityReply) := by
  rw [registerActive]
  cases wireResponseId response with
  | error failure => exact .throw _
  | ok responseId =>
      apply Replies.transition
      apply Replies.bind (maintains_dropWinner .registered)
      intro _
      exact .bind (maintains_at mild_lifecycleCall) fun _ => .pure fun _ => trivial

theorem replies_abandon (responseId : PyStr) :
    Replies thread (At thread none false false)
      (abandon thread responseId : AuthorityTask σ τ AuthorityReply) := by
  apply Replies.ensuring (fun _ _ => At.stays) ?_ (mild_releaseContinuationPins responseId)
  apply Replies.transition
  apply Replies.bind (maintains_at (mild_quiet fun authority _ => .refl authority))
  intro established
  dsimp only
  split
  · apply Replies.bind (maintains_dropWinner .abandoned)
    intro _
    exact .bind (maintains_at (mild_popPending responseId)) fun _ => .pure fun _ => trivial
  · exact .bind (maintains_discardLocked false .abandoned) fun _ => .pure fun _ => trivial

variable [Add τ] {config : AuthorityConfig τ} {rounds : Nat} {model : PyStr}

theorem replies_retrieve (responseId : PyStr) :
    Replies thread (At thread none false false)
      (retrieve config rounds thread responseId : AuthorityTask σ τ AuthorityReply) := by
  apply Replies.transition
  apply Replies.bind (maintains_at mild_lifecycleCall)
  intro found
  cases found with
  | none =>
      apply Replies.bind (maintains_at (mild_popPending responseId))
      intro _
      exact .bind (maintains_at (mild_discardState false responseId)) fun _ =>
        .pure fun _ => trivial
  | some response =>
      have answers (consistent : Bool) :
          Replies thread (At thread (some responseId) true false)
            (do
              if !consistent then
                discardLocked false responseId .inconsistent
                return .retrieved none
              return .retrieved (some response) : AuthorityTask σ τ AuthorityReply) := by
        cases consistent with
        | false =>
            exact .bind (maintains_discardLocked false .inconsistent) fun _ =>
              .pure fun _ => trivial
        | true => exact .pure fun _ => trivial
      dsimp only
      split
      · cases textOf response (py "model") with
        | none => exact answers false
        | some wireModel =>
            exact .bind (maintains_at (mild_chainRounds config false responseId wireModel rounds []
              (some responseId))) answers
      · exact .pure fun _ => trivial

theorem safe_finishOpen {seen : ResponseStateAuthority σ τ} {pending : Option ResponseRecord}
    (response : JsonObject) (undecided : Open thread responseId false seen)
    (staged : StagedFor responseId pending seen) :
    Task.Safe authorityRules thread (fun result after =>
      At thread (some responseId) true false after ∧ Answers thread result after.journal)
      (finishOpen config rounds thread responseId response pending :
        AuthorityTask σ τ AuthorityReply) seen := by
  rw [finishOpen]
  split
  · apply Coroutine.safe_bind
    apply Task.Safe.weaken ?_ (safe_shielded (fun _ _ => At.stays) (saying_commits response)
      (safe_commitRetainedTerminal response undecided staged))
    rintro result after ⟨here, committed⟩
    rcases result with failure | ready
    · exact ⟨here, trivial⟩
    cases ready with
    | false => exact ⟨here, trivial⟩
    | true => exact ⟨here, committed rfl⟩
  · apply Coroutine.safe_bind
    apply Task.Safe.weaken ?_ (maintains_open (mild_discardState false responseId) seen undecided)
    intro result after undecided
    rcases result with failure | done
    · exact ⟨undecided.here, trivial⟩
    apply Coroutine.safe_bind
    apply Task.Safe.weaken ?_ (maintains_open mild_lifecycleCall after undecided)
    intro result after undecided
    rcases result with failure | ⟨finished, evicted⟩
    · exact ⟨undecided.here, trivial⟩
    cases finished with
    | false => exact ⟨undecided.here, trivial⟩
    | true =>
        apply Coroutine.safe_bind
        apply Task.Safe.weaken ?_ (safe_setWinner undecided response)
        rintro result after ⟨here, decided⟩
        rcases result with failure | done
        · exact ⟨here, trivial⟩
        · exact ⟨here, decided⟩

theorem replies_finish (responseId : PyStr) (response : JsonObject) :
    Replies thread (At thread none false false)
      (finish config rounds thread responseId response : AuthorityTask σ τ AuthorityReply) := by
  apply Replies.ensuring (fun _ _ => At.stays) ?_ (mild_releaseContinuationPins responseId)
  apply Replies.transition
  intro seen here
  apply Coroutine.safe_bind
  apply Task.Safe.weaken ?_ (safe_takePending here)
  rintro result after ⟨here, staged⟩
  rcases result with failure | pending
  · exact ⟨here, trivial⟩
  apply Coroutine.safe_bind
  apply Task.Safe.weaken ?_ (safe_standingWinner here (staged pending rfl))
  rintro result after told
  rcases result with failure | _ | winner
  · exact ⟨told.1.here, trivial⟩
  · exact safe_finishOpen response told.1 told.2
  · exact told

theorem replies_cancel (responseId : PyStr) :
    Replies thread (At thread none false false)
      (cancel config thread responseId : AuthorityTask σ τ AuthorityReply) := by
  apply Replies.ensuring (fun _ _ => At.stays) ?_ (mild_releaseContinuationPins responseId)
  apply Replies.transition
  intro seen here
  apply Coroutine.safe_bind
  apply Task.Safe.weaken ?_ (safe_standingWinner here (StagedFor.none seen))
  rintro result after told
  rcases result with failure | _ | winner
  · exact ⟨told.1.here, trivial⟩
  · apply Coroutine.safe_bind
    apply Task.Safe.weaken ?_ (safe_shielded (fun _ _ => At.stays) saying_cancels
      (safe_cancelTerminal told.1))
    rintro result after ⟨here, cancels⟩
    rcases result with failure | response
    · exact ⟨here, trivial⟩
    · exact ⟨here, cancels response rfl⟩
  · exact ⟨told.1, fun _ => told.2⟩

/-! ## Resolution -/

theorem replies_resolveHeld :
    Replies thread (At thread (some responseId) true false)
      (resolveHeld config rounds responseId model : AuthorityTask σ τ AuthorityReply) := by
  have drops (task : AuthorityTask σ τ Unit) (mild : Task.Mild authorityRules task) :
      Replies thread (At thread (some responseId) true false)
        (do
          task
          throw (.notFound responseId) : AuthorityTask σ τ AuthorityReply) :=
    .bind (maintains_at mild) fun _ => .throw _
  apply Replies.bind (maintains_at mild_lifecycleCall)
  intro found
  cases found with
  | none =>
      apply Replies.bind (maintains_at (mild_popPending responseId))
      exact fun _ => drops _ (mild_discardState false responseId)
  | some response =>
      dsimp only
      split
      · exact .throws _
      split
      · exact .throws _
      intro seen here
      apply Coroutine.safe_bind
      apply Task.Safe.weaken ?_ (safe_get here)
      rintro result after ⟨here, forModel⟩
      rcases result with failure | _ | record
      · exact ⟨here, trivial⟩
      · exact drops _ (mild_discardLifecycle false responseId) after here
      dsimp only
      split
      · exact Replies.throws _ after here
      rename_i sameModel
      have known : ForModel responseId model after := by
        rw [← not_not.mp sameModel]
        exact forModel record rfl
      -- The walk along the chain is mild, so the stored record is still for the model behind it.
      have walks : Maintains thread
          (fun state => At thread (some responseId) true false state ∧
            ForModel responseId model state)
          (retainedChainIsConsistent config rounds false responseId model :
            AuthorityTask σ τ Bool) :=
        .of_mild (fun _ _ => ForModel.stays)
          (mild_chainRounds config false responseId model rounds [] (some responseId))
      apply Coroutine.safe_bind
      apply Task.Safe.weaken ?_ (walks after ⟨here, known⟩)
      rintro result after ⟨here, known⟩
      rcases result with failure | consistent
      · exact ⟨here, trivial⟩
      cases consistent with
      | false => exact Replies.throws _ after here
      | true =>
          apply Coroutine.safe_bind
          apply Task.Safe.weaken ?_ (safe_materialize here known)
          rintro result after ⟨here, continues⟩
          rcases result with failure | _ | items
          · exact ⟨here, trivial⟩
          · exact drops _ (mild_discardLifecycle false responseId) after here
          · exact ⟨here, continues items rfl⟩

theorem mild_pinChains (ownerId : PyStr) :
    Task.Mild authorityRules (pinChains config ownerId responseId : AuthorityTask σ τ Bool) := by
  apply Coroutine.mild_bind mild_lifecycleCall
  intro lifecycleIds
  cases lifecycleIds with
  | none => exact Coroutine.mild_pure false
  | some lifecycleIds =>
      apply Coroutine.mild_bind
      · apply Coroutine.mild_tryCatch
        · exact mild_stateCall fun now store => .pinChain config.state now store responseId
        · exact fun failure => Coroutine.mild_bind (mild_unpinChains [] lifecycleIds) fun _ =>
            Coroutine.mild_throw failure
      intro stateIds
      cases stateIds with
      | none =>
          exact Coroutine.mild_bind (mild_unpinChains [] lifecycleIds) fun _ =>
            Coroutine.mild_pure false
      | some stateIds =>
          apply Coroutine.mild_bind
          · exact mild_change fun authority =>
              ⟨rfl, rfl, rfl, rfl, fun _ _ found => found, .refl _⟩
          · exact fun _ => Coroutine.mild_pure true

/-- The pins of a continuation are taken under the lock of retained commits alone. -/
theorem maintains_pinContinuation (ownerId : PyStr) :
    Maintains thread (At thread none false false)
      (pinContinuation config thread ownerId responseId : AuthorityTask σ τ Bool) := by
  intro seen here
  have saying : Saying (fun (_ : Except AuthorityFailure Bool) _ => True) :=
    ⟨fun _ _ _ _ _ => trivial, fun _ _ => trivial⟩
  apply Task.Safe.weaken (fun _ _ told => And.left told)
  apply safe_committing saying (fun _ => True) (fun _ _ _ _ => trivial) (fun _ _ _ => trivial) here
    trivial
  intro state here _
  apply Task.Safe.weaken (fun _ _ here => ⟨here, trivial⟩)
  apply maintains_at ?_ state here
  apply Coroutine.mild_bind (mild_quiet fun authority _ => .refl authority)
  intro owned
  split
  · exact Coroutine.mild_bind (Coroutine.mild_throw _) fun _ => mild_pinChains ownerId
  · exact mild_pinChains ownerId

theorem replies_resolvePrevious (responseId : Option PyStr) (pinOwner : Option PyStr) :
    Replies thread (At thread none false false)
      (resolvePrevious config rounds thread responseId model pinOwner :
        AuthorityTask σ τ AuthorityReply) := by
  cases responseId with
  | none => exact .pure fun _ => trivial
  | some responseId =>
      cases pinOwner with
      | none => exact .transition replies_resolveHeld
      | some owner =>
          rw [resolvePrevious]
          split
          · exact .throws _
          apply Replies.bind (maintains_pinContinuation owner)
          intro pinned
          cases pinned with
          | false => exact .throws _
          | true =>
              intro seen here
              apply Coroutine.safe_tryCatch
              apply Task.Safe.weaken ?_ (Replies.transition replies_resolveHeld seen here)
              rintro result after ⟨here, told⟩
              cases result with
              | ok reply => exact ⟨here, told⟩
              | error failure =>
                  exact Replies.bind (maintains_at (mild_releaseContinuationPins owner))
                    (fun _ => .throw failure) after here

/-- Every call keeps its promise. -/
theorem replies_serve (call : AuthorityCall σ) :
    Replies thread (At thread none false false)
      (serve config rounds thread call : AuthorityTask σ τ AuthorityReply) := by
  cases call with
  | get responseId =>
      exact replies_plain (mild_stateCall fun now store => .get config.state now store responseId)
        fun _ _ => trivial
  | materialize responseId =>
      exact replies_plain
        (mild_stateCall fun now store => .materialize config.state now store responseId)
        fun _ _ => trivial
  | pinChain responseId =>
      exact replies_plain
        (mild_stateCall fun now store => .pinChain config.state now store responseId)
        fun _ _ => trivial
  | unpinChain responseIds =>
      exact .bind (maintains_at (mild_stateCall fun _ store => .unpinChain store responseIds))
        fun _ => .pure fun _ => trivial
  | put record => exact replies_put record
  | discard responseId => exact replies_discard responseId
  | registerActive response session retain => exact replies_registerActive response session retain
  | updateActive responseId response =>
      exact replies_plain mild_lifecycleCall fun _ _ => trivial
  | finish responseId response => exact replies_finish responseId response
  | isTerminal responseId =>
      exact replies_plain (mild_quiet fun authority _ => .refl authority) fun _ _ => trivial
  | abandon responseId => exact replies_abandon responseId
  | retrieve responseId => exact replies_retrieve responseId
  | cancel responseId => exact replies_cancel responseId
  | resolvePrevious responseId model pinOwner => exact replies_resolvePrevious responseId pinOwner
  | releaseContinuation ownerId =>
      exact .bind (maintains_at (mild_releaseContinuationPins ownerId)) fun _ =>
        .pure fun _ => trivial

end Methods

/-! ## Runs -/

theorem standing_kept {front middle back : List AuthorityEntry} {first : Nat} {responseId : PyStr}
    {response : JsonObject}
    (agreeing : Agreeing (front ++ .decided first responseId response :: (middle ++ back)))
    (kept : ∀ cause, .dropped responseId cause ∉ middle) :
    standing (front ++ .decided first responseId response :: middle) responseId =
      some response := by
  induction middle using List.reverseRecOn generalizing back with
  | nil => simp [AuthorityEntry.outcome]
  | append_singleton middle entry induction =>
      simp only [List.append_assoc, List.singleton_append] at agreeing
      have before := @induction (entry :: back) agreeing
        fun cause member => kept cause (List.mem_append_left _ member)
      rw [← List.cons_append, ← List.append_assoc, standing_snoc, before]
      cases entry with
      | staged record => rfl
      | committed record => rfl
      | decided thread other later =>
          rw [AuthorityEntry.outcome]
          split
          · rename_i same
            subst same
            have equal : response = later := by
              apply agreeing (front ++ .decided first other response :: middle) thread other later
                back
              · simp
              · exact before
            rw [equal]
          · rfl
      | dropped other cause =>
          rw [AuthorityEntry.outcome, if_neg]
          rintro rfl
          exact kept cause (List.mem_append_right _ (List.mem_singleton_self _))

theorem AuthorityInvariant.initial :
    AuthorityInvariant (ResponseStateAuthority.initial : ResponseStateAuthority σ τ) where
  agreeing := .nil
  winners _ := rfl
  staged _ _ found := by cases found
  committed _ _ found := by cases found
  holders _ _ held := by cases held
  nodup _ := List.nodup_nil
  inUse _ _ found := by cases found

theorem At.initial (thread : Nat) :
    At thread none false false (ResponseStateAuthority.initial : ResponseStateAuthority σ τ) where
  users _ := iff_of_false List.not_mem_nil (by simp)
  holder _ := iff_of_false (by rintro ⟨⟩) (by simp)
  commit := iff_of_false (by rintro ⟨⟩) (by simp)

/-- A call begins outside of every lock and ends there, with a reply that keeps its promise. -/
def authorityPromise : Promise (authorityRules (σ := σ) (τ := τ))
    (Except AuthorityFailure AuthorityReply) where
  fresh thread := At thread none false false
  post thread result after := At thread none false false after ∧ Answers thread result after.journal
  freshStays _ _ _ := At.stays
  postStays _ result _ _ alone told :=
    ⟨told.1.stays alone, saying_answers.later result _ _ alone.journal told.2⟩

section Runs

variable [Add τ] [LE τ] [DecidableLE τ] {config : AuthorityConfig τ} {rounds : Nat}
  {pool : AuthorityPool σ τ}

theorem fulfils_of_run (run : AuthorityReachable config rounds pool) :
    pool.Fulfils authorityPromise := by
  apply Pool.Reachable.fulfils AuthorityInvariant.initial At.initial ?_ run
  intro thread call state _ fresh
  exact replies_serve call state fresh

/-- The call has answered with the terminal outcome of the response. -/
def EndedWith (pool : AuthorityPool σ τ) (thread : Nat) (responseId : PyStr)
    (response : JsonObject) : Prop :=
  pool.tasks[thread]? = some (.done (.ok (.finished responseId true response))) ∨
  pool.tasks[thread]? = some (.done (.ok (.cancelled responseId response))) ∧
    isTerminalStatus response = true

/-- The first terminal outcome of a response wins: a call that answers with an outcome has
decided on it, and between two decisions on different outcomes the first was dropped. -/
theorem first_terminal_wins (run : AuthorityReachable config rounds pool) :
    (∀ thread responseId response, EndedWith pool thread responseId response →
      .decided thread responseId response ∈ pool.shared.journal) ∧
    ∀ front middle back first second responseId outcome later,
      pool.shared.journal = front ++ .decided first responseId outcome ::
        (middle ++ .decided second responseId later :: back) →
      (∀ cause, .dropped responseId cause ∉ middle) → outcome = later := by
  have fulfils := fulfils_of_run run
  constructor
  · rintro thread responseId response (answered | ⟨answered, terminal⟩)
    · exact (fulfils.safe thread _ answered).2
    · exact (fulfils.safe thread _ answered).2 terminal
  · intro front middle back first second responseId outcome later split kept
    have agreeing : Agreeing pool.shared.journal := fulfils.invariant.agreeing
    have stands := standing_kept (split ▸ agreeing) kept
    apply agreeing (front ++ .decided first responseId outcome :: middle) second responseId later
      back
    · rw [split]
      simp
    · exact stands

/-- A continuation is resolved to the items of a whole conversation for its model, each record
of which was staged and committed. -/
theorem resolved_continues (run : AuthorityReachable config rounds pool) {thread : Nat}
    {responseId model : PyStr} {items : List CanonicalItem}
    (answered : pool.tasks[thread]? =
      some (.done (.ok (.resolved (some responseId) model items)))) :
    Continues pool.shared.journal responseId model items :=
  ((fulfils_of_run run).safe thread _ answered).2

def Running (pool : AuthorityPool σ τ) (thread : Nat) : Prop :=
  ∃ task, pool.tasks[thread]? = some task ∧ ∀ result, task ≠ .done result

/-- A number that is somewhere in the locks is that of a running call. -/
theorem running_of_locks (run : AuthorityReachable config rounds pool) {thread : Nat}
    (inside : ¬At thread none false false pool.shared) : Running pool thread := by
  have fulfils := fulfils_of_run run
  cases found : pool.tasks[thread]? with
  | none => exact absurd (fulfils.fresh thread (List.getElem?_eq_none_iff.mp found)) inside
  | some task =>
      refine ⟨task, found, ?_⟩
      rintro result rfl
      exact inside (fulfils.safe thread _ found).1

/-- Every lock, and every transition that is kept, belongs to calls that still run; when all
calls have come back, nothing is locked and no transition is left. -/
theorem locks_of_running_calls (run : AuthorityReachable config rounds pool) :
    (∀ responseId transition, pool.shared.transitions.get? responseId = some transition →
      transition.users ≠ [] ∧ (∀ user ∈ transition.users, Running pool user) ∧
      ∀ holder ∈ transition.holder, holder ∈ transition.users) ∧
    ∀ holder ∈ pool.shared.retainedCommit, Running pool holder := by
  have holds : AuthorityInvariant pool.shared := (fulfils_of_run run).invariant
  constructor
  · intro responseId transition stands
    have entry : pool.shared.transitionOf responseId = transition := by
      rw [transitionOf, stands]
      rfl
    refine ⟨holds.inUse responseId transition stands, ?_, ?_⟩
    · intro user member
      apply running_of_locks run
      intro outside
      have none := (outside.users responseId).mp (by rw [usersOf, entry]; exact member)
      cases none
    · intro holder held
      have member := holds.holders responseId holder (by rw [holderOf, entry]; exact held)
      rw [usersOf, entry] at member
      exact member
  · intro holder held
    apply running_of_locks run
    intro outside
    have committing := outside.commit.mp held
    cases committing

end Runs

/-! A response that fails is finished once more; and a stored response is continued by another
one. -/

def smallStores : AuthorityConfig Nat :=
  ⟨⟨8, 100, 100000, Nat.succ_pos _, Nat.succ_pos _⟩,
    ⟨8, 100, 100000, Nat.succ_pos _, Nat.succ_pos _⟩⟩

def endedResponse (status : String) (store : Bool) : JsonObject :=
  [(py "id", .str (py "r")), (py "status", .str (py status)), (py "store", .bool store),
    (py "model", .str (py "m"))]

theorem greeting_id : NonBlank (py "r") := by decide

theorem greeting_model : NonBlank (py "m") := by decide

theorem greeting_root : ∀ parent ∈ (none : Option PyStr), NonBlank parent := by simp

def greetingRecord : ResponseRecord :=
  ⟨py "r", py "m", none, [.message ⟨.assistant, py "Hello"⟩], greeting_id, greeting_model,
    greeting_root⟩

def calling (thread : Nat) (call : AuthorityCall Unit) (blocks : Nat) :
    List (Action (AuthorityOutside Nat) (AuthorityCall Unit)) :=
  .call call :: List.replicate blocks (.run thread ⟨0, false, false⟩)

def finishedTwice : List (Action (AuthorityOutside Nat) (AuthorityCall Unit)) :=
  calling 0 (.registerActive (endedResponse "in_progress" false) () false) 7 ++
    calling 1 (.finish (py "r") (endedResponse "failed" false)) 11 ++
    calling 2 (.finish (py "r") (endedResponse "completed" false)) 8

theorem first_terminal_wins_failed : ∃ pool : AuthorityPool Unit Nat,
    AuthorityReachable smallStores 8 pool ∧
    EndedWith pool 2 (py "r") (endedResponse "failed" false) ∧
    .decided 2 (py "r") (endedResponse "failed" false) ∈ pool.shared.journal := by
  have performs : (Pool.perform (fun thread call => serve smallStores 8 thread call)
      ⟨ResponseStateAuthority.initial, []⟩ finishedTwice).isSome = true := by decide
  have run : AuthorityReachable smallStores 8 _ :=
    Pool.Reachable.initial.perform finishedTwice (Option.some_get performs).symm
  exact ⟨_, run, .inl rfl, (first_terminal_wins run).1 2 _ _ (.inl rfl)⟩

def storedFirst (blocks : Nat) : List (Action (AuthorityOutside Nat) (AuthorityCall Unit)) :=
  calling 0 (.registerActive (endedResponse "completed" true) () true) 7 ++
    calling 1 (.put greetingRecord) 6 ++
    calling 2 (.finish (py "r") (endedResponse "completed" true)) blocks

def answerResponse : JsonObject :=
  (py "previous_response_id", .str (py "r")) :: (py "id", .str (py "s")) ::
    (endedResponse "completed" true).tail

theorem answer_id : NonBlank (py "s") := by decide

theorem answer_parent : ∀ parent ∈ some (py "r"), NonBlank parent := by decide

def answerRecord : ResponseRecord :=
  ⟨py "s", py "m", some (py "r"), [.message ⟨.user, py "Again"⟩, .message ⟨.assistant, py "Hi"⟩],
    answer_id, greeting_model, answer_parent⟩

def continuedTwice : List (Action (AuthorityOutside Nat) (AuthorityCall Unit)) :=
  storedFirst 17 ++ calling 3 (.registerActive answerResponse () true) 7 ++
    calling 4 (.put answerRecord) 6 ++ calling 5 (.finish (py "s") answerResponse) 19 ++
    calling 6 (.resolvePrevious (some (py "s")) (py "m") none) 12

theorem resolved_continues_answer : ∃ pool : AuthorityPool Unit Nat,
    AuthorityReachable smallStores 8 pool ∧
    Continues pool.shared.journal (py "s") (py "m")
      [.message ⟨.assistant, py "Hello"⟩, .message ⟨.user, py "Again"⟩,
        .message ⟨.assistant, py "Hi"⟩] := by
  have performs : (Pool.perform (fun thread call => serve smallStores 8 thread call)
      ⟨ResponseStateAuthority.initial, []⟩ continuedTwice).isSome = true := by decide
  have run : AuthorityReachable smallStores 8 _ :=
    Pool.Reachable.initial.perform continuedTwice (Option.some_get performs).symm
  exact ⟨_, run, resolved_continues run (show _[6]? = _ from rfl)⟩

theorem locks_of_running_calls_committing : ∃ pool : AuthorityPool Unit Nat,
    AuthorityReachable smallStores 8 pool ∧ pool.shared.retainedCommit = some 2 ∧
    Running pool 2 := by
  have performs : (Pool.perform (fun thread call => serve smallStores 8 thread call)
      ⟨ResponseStateAuthority.initial, []⟩ (storedFirst 8)).isSome = true := by decide
  have run : AuthorityReachable smallStores 8 _ :=
    Pool.Reachable.initial.perform (storedFirst 8) (Option.some_get performs).symm
  exact ⟨_, run, rfl, (locks_of_running_calls run).2 2 rfl⟩

end ExQServe.State
