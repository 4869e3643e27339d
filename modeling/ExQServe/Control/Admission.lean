import ExQServe.Control.RequestInvariant

/-! # Admission over every run

Every block of every call keeps the accounting, so it is exact in every state that any
interleaving of the calls reaches. A lease that exists keeps its request id, which is
what `submit` relies on between its two sections. -/

namespace ExQServe.Control

open ExQServe.Model ExQServe.Runtime RequestController

variable {τ : Type}

structure Forward (before after : RequestController τ) : Prop where
  leases : before.leases ≤ after.leases
  requestId : ∀ lease, lease < before.leases →
    (after.lease lease).requestId = (before.lease lease).requestId

namespace Forward

theorem refl (controller : RequestController τ) : Forward controller controller :=
  ⟨Nat.le_refl _, fun _ _ => rfl⟩

theorem trans {first second third : RequestController τ} (one : Forward first second)
    (two : Forward second third) : Forward first third := by
  constructor
  · exact Nat.le_trans one.leases two.leases
  · intro lease known
    rw [two.requestId lease (Nat.lt_of_lt_of_le known one.leases), one.requestId lease known]

theorem of_same {before after : RequestController τ} (leases : after.leases = before.leases)
    (requestId : ∀ lease, (after.lease lease).requestId = (before.lease lease).requestId) :
    Forward before after := ⟨leases.ge, fun lease _ => requestId lease⟩

theorem setLease (controller : RequestController τ) {lease : Nat} {object : RequestLease τ}
    (sameId : object.requestId = (controller.lease lease).requestId) :
    Forward controller (controller.setLease lease object) := by
  refine of_same rfl ?_
  intro index
  by_cases here : index = lease
  · subst here
    simpa [RequestController.setLease] using sameId
  · simp [RequestController.setLease, here]

theorem dropSession (controller : RequestController τ) (requestId : PyStr) (session : Nat) :
    Forward controller (controller.dropSession requestId session) :=
  of_same rfl fun _ => rfl

theorem forgetSession (controller : RequestController τ) (lease : Nat) :
    Forward controller (controller.forgetSession lease) := by
  rw [RequestController.forgetSession]
  cases (controller.lease lease).session with
  | none => exact refl _
  | some session => exact dropSession _ _ _

theorem releaseLeaseLocked (controller : RequestController τ) (lease : Nat) :
    Forward controller (controller.releaseLeaseLocked lease).2 := by
  have gone : Forward controller ((controller.forgetSession lease).giveBack lease) := by
    apply (forgetSession controller lease).trans
    have retired : Forward _ ((controller.forgetSession lease).setLease lease
        { (controller.forgetSession lease).lease lease with
          session := none, state := .released, terminated := true }) := setLease _ rfl
    exact ⟨retired.leases, retired.requestId⟩
  rw [RequestController.releaseLeaseLocked]
  dsimp only
  split
  · exact refl _
  split
  · exact refl _
  split
  · exact gone
  split
  · exact ⟨gone.leases, gone.requestId⟩
  · exact gone

theorem releaseAttemptLocked (controller : RequestController τ) (session : Nat) :
    Forward controller (controller.releaseAttemptLocked session).2 := by
  rw [RequestController.releaseAttemptLocked]
  dsimp only
  cases controller.leasesByRequestId.get? (controller.session session).requestId with
  | none => exact refl _
  | some lease =>
      dsimp only
      have detached : Forward controller
          ((controller.dropSession (controller.session session).requestId session).setLease lease
            { controller.lease lease with session := none }) :=
        (dropSession _ _ _).trans (setLease _ rfl)
      split
      · exact refl _
      split
      · exact detached.trans (releaseLeaseLocked _ _)
      · exact detached

theorem injectTextLocked (controller : RequestController τ) (requestId : PyStr) (accepted : Bool) :
    Forward controller (controller.injectTextLocked requestId accepted).2 := by
  rw [RequestController.injectTextLocked]
  cases controller.sessionsByRequestId.get? requestId with
  | none => exact refl _
  | some session =>
      dsimp only
      split
      · exact refl _
      split
      · exact refl _
      cases controller.leasesByRequestId.get? requestId with
      | none => exact refl _
      | some lease => exact setLease _ rfl

theorem closeLocked (controller : RequestController τ) (reason : RequestTerminalReason) :
    Forward controller (controller.closeLocked reason).2 := by
  rw [RequestController.closeLocked]
  split
  · exact refl _
  · refine of_same rfl ?_
    intro lease
    dsimp only
    split <;> rfl

theorem acquireLocked [Add τ] {config : RequestControlConfig τ} (controller : RequestController τ)
    (requestId : PyStr) (now : τ) :
    Forward controller (controller.acquireLocked config requestId now).2 := by
  rw [RequestController.acquireLocked]
  split
  · exact refl _
  split
  · exact refl _
  split
  · exact refl _
  · constructor
    · exact Nat.le_succ _
    · intro lease known
      simp [RequestController.setLease, Nat.ne_of_lt known]

theorem submitReservedLocked [Add τ] [LE τ] [DecidableLE τ] {config : RequestControlConfig τ}
    (controller : RequestController τ) (lease : Nat) (request : RuntimeGenerationRequest)
    (final : Bool) (now : τ) (submission : Submission) :
    Forward controller
      (controller.submitReservedLocked config lease request final now submission).2 := by
  rw [RequestController.submitReservedLocked]
  dsimp only
  split
  · exact refl _
  split
  · exact refl _
  split
  · exact refl _
  split
  · exact refl _
  split
  · exact setLease _ rfl
  · cases submission with
    | unavailable error => exact setLease _ rfl
    | raised => exact setLease _ rfl
    | broken => exact setLease _ rfl
    | session =>
        have set : Forward controller (controller.setLease lease { controller.lease lease with
            deadline := (controller.lease lease).deadline.or (config.timeoutSeconds.map (now + ·))
            state := .active
            session := some controller.sessionCount }) := setLease controller rfl
        exact ⟨set.leases, set.requestId⟩

end Forward

/-! ## Blocks and tasks -/

def accounting (config : RequestControlConfig τ) : Discipline (RequestController τ) :=
  .forward (AdmissionInvariant config) Forward Forward.refl fun _ _ _ => Forward.trans

variable {config : RequestControlConfig τ}

section Blocks

variable {α : Type}

theorem keeps_locked {run : RequestController τ → Surroundings τ →
    Except RequestFailure α × RequestController τ}
    (keeps : ∀ controller outside, AdmissionInvariant config controller →
      AdmissionInvariant config (run controller outside).2)
    (forward : ∀ controller outside, Forward controller (run controller outside).2) :
    Task.Keeps (accounting config) (locked run : ControlTask τ α) := by
  apply Coroutine.keeps_atomically
  intro controller outside holds
  by_cases interrupted : outside.interrupted = true
  · simp only [interrupted, if_true]
    exact ⟨holds, fun _ => Forward.refl _⟩
  · simp only [interrupted]
    exact ⟨keeps controller outside holds, fun _ => forward controller outside⟩

/-- A session method does not rename the session. -/
theorem keeps_sessionStep {session : Nat} {run : ControlledSession τ → Surroundings τ →
    Except RequestFailure α × ControlledSession τ}
    (sameId : ∀ object outside, (run object outside).2.requestId = object.requestId) :
    Task.Keeps (accounting config) (sessionStep session run : ControlTask τ α) := by
  apply Coroutine.keeps_atomically
  intro controller outside holds
  constructor
  · exact AdmissionInvariant.setSession holds (sameId _ _)
  · exact fun _ => ⟨Nat.le_refl _, fun _ _ => rfl⟩

theorem keeps_await (answer : Surroundings τ → Except RequestFailure α) :
    Task.Keeps (accounting config) (await answer : ControlTask τ α) := by
  apply Coroutine.keeps_atomically
  intro controller outside holds
  exact ⟨holds, fun _ => Forward.refl _⟩

end Blocks

open Coroutine

theorem keeps_releaseOnce (session : Nat) :
    Task.Keeps (accounting config) (releaseOnce session) := by
  apply keeps_bind
  · apply keeps_sessionStep
    intro object outside
    simp only [ControlledSession.claimRelease]
    split <;> rfl
  · intro mine
    cases mine with
    | false => exact keeps_pure ()
    | true =>
        apply keeps_locked
        · intro controller outside holds
          exact holds.releaseAttemptLocked session
        · intro controller outside
          exact Forward.releaseAttemptLocked controller session

theorem keeps_cancelRuntimeOnce (session : Nat) :
    Task.Keeps (accounting config) (cancelRuntimeOnce session) := by
  apply keeps_bind
  · apply keeps_sessionStep
    intro object outside
    simp only [ControlledSession.claimCancel]
    split <;> rfl
  · intro mine
    cases mine with
    | false => exact keeps_pure ()
    | true => exact keeps_await _

theorem keeps_cancelSession (session : Nat) (reason : RequestTerminalReason) :
    Task.Keeps (accounting config) (cancelSession session reason) := by
  rw [cancelSession]
  split
  · exact keeps_throw _
  · apply keeps_bind
    · apply keeps_sessionStep
      intro object outside
      simp only [ControlledSession.beginCancel]
      split <;> rfl
    · intro mine
      cases mine with
      | false => exact keeps_pure ()
      | true =>
          exact keeps_bind (keeps_cancelRuntimeOnce session) fun _ => keeps_releaseOnce session

theorem keeps_expireAttempt (session : Nat) :
    Task.Keeps (accounting config) (expireAttempt session) := by
  apply keeps_bind (keeps_cancelRuntimeOnce session)
  intro _
  apply keeps_bind (keeps_releaseOnce session)
  intro _
  exact keeps_await _

theorem keeps_markIteration (session : Nat) (reason : Option RequestTerminalReason) :
    Task.Keeps (accounting config) (markIteration session reason) :=
  keeps_sessionStep fun _ _ => rfl

theorem keeps_leaveIteration (session : Nat) (failure : RequestFailure) :
    Task.Keeps (accounting config) (leaveIteration session failure) := by
  rw [leaveIteration]
  split
  · apply keeps_bind (keeps_markIteration session _)
    intro _
    apply keeps_bind
    · exact keeps_ensuring (keeps_cancelRuntimeOnce session) (keeps_releaseOnce session)
    · exact fun _ => keeps_throw failure
  · apply keeps_bind (keeps_markIteration session _)
    intro _
    apply keeps_bind (keeps_releaseOnce session)
    exact fun _ => keeps_throw failure

theorem keeps_leaveContext (session : Nat) :
    Task.Keeps (accounting config) (leaveContext session) := by
  apply keeps_bind
  · exact keeps_sessionStep fun _ _ => rfl
  · intro running
    cases running with
    | false => exact keeps_pure ()
    | true =>
        rw [if_pos rfl]
        exact keeps_cancelSession session _

theorem keeps_releaseLease (lease : Nat) :
    Task.Keeps (accounting config) (releaseLease lease) := by
  have last : Task.Keeps (accounting config)
      (locked fun controller _ => controller.releaseLeaseLocked lease : ControlTask τ Unit) := by
    apply keeps_locked
    · intro controller outside holds
      exact holds.releaseLeaseLocked lease
    · intro controller outside
      exact Forward.releaseLeaseLocked controller lease
  apply keeps_bind
  · apply keeps_locked
    · exact fun controller outside holds => holds
    · exact fun controller outside => Forward.refl controller
  · intro found
    cases found with
    | none => exact keeps_pure ()
    | some session =>
        cases session with
        | none => exact last
        | some session => exact keeps_bind (keeps_cancelSession session _) fun _ => last

theorem keeps_injectText (requestId text : PyStr) :
    Task.Keeps (accounting config) (injectText requestId text) := by
  rw [injectText]
  split
  · exact keeps_throw _
  split
  · exact keeps_throw _
  · apply keeps_locked
    · intro controller outside holds
      exact holds.injectTextLocked requestId _
    · intro controller outside
      exact Forward.injectTextLocked controller requestId _

theorem keeps_close (reason : RequestTerminalReason) :
    Task.Keeps (accounting config) (close reason) := by
  have drained : Task.Keeps (accounting config)
      (Coroutine.when RequestController.drained fun controller outside =>
        (if outside.interrupted then .error .cancelled else .ok (), controller) :
          ControlTask τ Unit) := by
    apply keeps_when
    intro controller outside holds
    exact ⟨holds, fun _ => Forward.refl _⟩
  rw [close]
  split
  · exact keeps_throw _
  · apply keeps_bind
    · apply keeps_locked
      · intro controller outside holds
        exact holds.closeLocked reason
      · intro controller outside
        exact Forward.closeLocked controller reason
    · intro found
      cases found with
      | none => exact keeps_pure ()
      | some sessions =>
          dsimp only
          split
          · apply keeps_bind (keeps_forkAll _)
            intro _
            exact keeps_bind (keeps_await _) fun _ => drained
          · exact drained

section Time

variable [LE τ] [DecidableLE τ]

theorem keeps_nextWithDeadline (session : Nat) :
    Task.Keeps (accounting config) (nextWithDeadline session) := by
  apply keeps_bind
  · apply keeps_sessionStep
    intro object outside
    simp only [ControlledSession.checkDeadline]
    cases object.deadline with
    | none => rfl
    | some deadline =>
        dsimp only
        split
        · rfl
        · split <;> rfl
  · intro check
    cases check with
    | unlimited => exact keeps_await _
    | passed => exact keeps_expireAttempt session
    | pending =>
        apply keeps_bind
        · apply keeps_sessionStep
          intro object outside
          cases outside.wake <;> rfl
        · intro came
          cases came with
          | true => exact keeps_await _
          | false => exact keeps_expireAttempt session

theorem keeps_nextEvent (session : Nat) :
    Task.Keeps (accounting config) (nextEvent session) := by
  apply keeps_bind
  · exact keeps_sessionStep fun _ _ => rfl
  · intro ended
    cases ended with
    | true => exact keeps_throw _
    | false =>
        apply keeps_bind
        · exact keeps_tryCatch (keeps_nextWithDeadline session) (keeps_leaveIteration session)
        · intro event
          cases terminalReasonOf event with
          | none => exact keeps_pure event
          | some reason =>
              apply keeps_bind (keeps_markIteration session _)
              intro _
              exact keeps_bind (keeps_releaseOnce session) fun _ => keeps_pure event

end Time

/-! ## Submitting -/

section Submitting

variable [Add τ] [LE τ] [DecidableLE τ]

/-- An admitted lease is there and carries the request id it was acquired for. -/
def LeaseFor (requestId : PyStr) (lease : Nat) (controller : RequestController τ) : Prop :=
  lease < controller.leases ∧ (controller.lease lease).requestId = requestId

omit [Add τ] [LE τ] [DecidableLE τ] in
theorem LeaseFor.stable {requestId : PyStr} {lease : Nat} {before after : RequestController τ}
    (isFor : LeaseFor requestId lease before) (forward : Forward before after) :
    LeaseFor requestId lease after := by
  constructor
  · exact Nat.lt_of_lt_of_le isFor.1 forward.leases
  · rw [forward.requestId lease isFor.1]
    exact isFor.2

omit [LE τ] [DecidableLE τ] in
theorem leaseFor_acquireLocked {controller : RequestController τ} {requestId : PyStr} {now : τ}
    {lease : Nat} (acquired : (controller.acquireLocked config requestId now).1 = .ok lease) :
    LeaseFor requestId lease (controller.acquireLocked config requestId now).2 := by
  rw [RequestController.acquireLocked] at acquired ⊢
  split at acquired
  · cases acquired
  split at acquired
  · cases acquired
  split at acquired
  · cases acquired
  · rename_i opened free room
    rw [if_neg opened, if_neg free, if_neg room]
    cases acquired
    simp [LeaseFor, RequestController.setLease, newLease]

omit [LE τ] [DecidableLE τ] in
theorem safe_acquire (thread : Nat) (requestId : PyStr) (seen : RequestController τ) :
    Task.Safe (accounting config) thread (fun result controller =>
      ∀ lease, result = .ok lease → LeaseFor requestId lease controller)
      (acquire config requestId) seen := by
  rw [acquire]
  split
  · intro lease impossible
    cases impossible
  · apply Task.safe_atomically
    intro controller outside _ holds
    by_cases interrupted : outside.interrupted = true
    · simp only [interrupted, if_true]
      refine ⟨holds, fun _ _ => Forward.refl _, ?_⟩
      intro lease impossible
      cases impossible
    · simp only [interrupted]
      refine ⟨AdmissionInvariant.acquireLocked holds requestId outside.now,
        fun _ _ => Forward.acquireLocked controller requestId outside.now, ?_⟩
      exact fun lease acquired => leaseFor_acquireLocked acquired

omit [Add τ] [LE τ] [DecidableLE τ] in
theorem keeps_rollBackSetup (started : Bool) :
    Task.Keeps (accounting config) (rollBackSetup started) := by
  rw [rollBackSetup]
  split
  · apply keeps_bind
    · apply keeps_tryCatch (keeps_await _)
      intro failure
      split
      · exact keeps_throw _
      · exact keeps_pure _
    · exact fun _ => keeps_throw _
  · exact keeps_throw _

theorem safe_submitReserved {thread lease : Nat} {request : RuntimeGenerationRequest}
    (final : Bool) {seen : RequestController τ} (isFor : LeaseFor request.requestId lease seen) :
    Task.Safe (accounting config) thread (fun _ _ => True)
      (submitReserved config lease request final) seen := by
  rw [submitReserved]
  cases validateLimits config request with
  | some failure => trivial
  | none =>
      apply safe_bind
      apply Task.safe_atomically
      intro controller outside forward holds
      by_cases interrupted : outside.interrupted = true
      · simp only [interrupted, if_true]
        exact ⟨holds, fun _ _ => Forward.refl _, trivial⟩
      · simp only [interrupted, Bool.false_eq_true, if_false]
        refine ⟨AdmissionInvariant.submitReservedLocked holds (isFor.stable forward).2.symm final
            outside.now outside.submission,
          fun _ _ => Forward.submitReservedLocked controller lease request final outside.now
            outside.submission, ?_⟩
        cases (controller.submitReservedLocked config lease request final outside.now
            outside.submission).1 with
        | error failure => trivial
        | ok setup =>
            cases setup with
            | ready session => trivial
            | failed started => exact keeps_rollBackSetup started thread _

theorem keeps_submitLease (lease : Nat) (request : RuntimeGenerationRequest) (final : Bool) :
    Task.Keeps (accounting config) (submitLease config lease request final) := by
  intro thread seen
  apply safe_bind
  apply Task.safe_atomically
  intro controller outside _ holds
  refine ⟨holds, fun _ _ => Forward.refl _, ?_⟩
  dsimp only
  by_cases same : request.requestId = (controller.lease lease).requestId
  · rw [if_neg (not_not.mpr same)]
    apply safe_submitReserved
    constructor
    · -- An object that was not made has no request id, and a request has one.
      apply Nat.lt_of_not_le
      intro beyond
      rw [AdmissionInvariant.unmade holds lease beyond] at same
      exact request.requestIdNonBlank.ne_nil same
    · exact same.symm
  · rw [if_pos same]
    trivial

theorem keeps_submit (request : RuntimeGenerationRequest) :
    Task.Keeps (accounting config) (submit config request) := by
  intro thread seen
  apply safe_bind
  apply Task.Safe.weaken ?_ (safe_acquire thread request.requestId seen)
  intro result controller acquired
  cases result with
  | error failure => trivial
  | ok lease =>
      apply safe_tryCatch
      apply Task.Safe.weaken ?_ (safe_submitReserved true (acquired lease rfl))
      intro result controller _
      cases result with
      | ok session => trivial
      | error failure =>
          have rolledBack : Task.Keeps (accounting config) (do
              releaseLease lease
              throw failure : ControlTask τ Nat) :=
            keeps_bind (keeps_releaseLease lease) fun _ => keeps_throw failure
          exact rolledBack thread controller

omit [Add τ] [LE τ] [DecidableLE τ] in
theorem keeps_answer {α : Type} (reply : α → ControlReply) {control : ControlTask τ α}
    (keeps : Task.Keeps (accounting config) control) :
    Task.Keeps (accounting config) (answer reply control) :=
  keeps_bind keeps fun value => keeps_pure (reply value)

theorem keeps_serve (call : ControlCall) :
    Task.Keeps (accounting config) (serve config call) := by
  cases call with
  | acquire requestId =>
      apply keeps_answer
      intro thread seen
      exact (safe_acquire thread requestId seen).weaken fun _ _ _ => trivial
  | submit request => exact keeps_answer _ (keeps_submit request)
  | leaseSubmit lease request => exact keeps_answer _ (keeps_submitLease lease request false)
  | leaseSubmitFinal lease request => exact keeps_answer _ (keeps_submitLease lease request true)
  | leaseRelease lease => exact keeps_answer _ (keeps_releaseLease lease)
  | next session => exact keeps_answer _ (keeps_nextEvent session)
  | cancel session reason => exact keeps_answer _ (keeps_cancelSession session reason)
  | leaveContext session => exact keeps_answer _ (keeps_leaveContext session)
  | injectText requestId text => exact keeps_answer _ (keeps_injectText requestId text)
  | close reason => exact keeps_answer _ (keeps_close reason)

theorem invariant_of_run {pool : ControlPool τ} (run : ControlRun config pool) :
    AdmissionInvariant config pool.shared := by
  have sound : pool.Sound (accounting config) := by
    apply run.sound AdmissionInvariant.initial
    intro thread call controller _
    exact keeps_serve call thread controller
  exact sound.invariant

end Submitting

/-! ## The accounting -/

structure AdmissionExact (config : RequestControlConfig τ) (controller : RequestController τ) :
    Prop where
  inFlight : controller.inFlight = controller.leasesByRequestId.size
  nonnegative : 0 ≤ controller.inFlight
  bounded : controller.inFlight ≤ config.maxInFlight
  drained : controller.drained = true ↔ controller.inFlight = 0
  sessions : ∀ session, session ∈ controller.sessions ↔ ∃ requestId lease,
    controller.leasesByRequestId.get? requestId = some lease ∧
      (controller.lease lease).session = some session
  sessionsByRequestId : ∀ requestId session,
    controller.sessionsByRequestId.get? requestId = some session ↔ ∃ lease,
      controller.leasesByRequestId.get? requestId = some lease ∧
        (controller.lease lease).session = some session
  releasedOnce : ∀ lease, controller.history.count (.released lease) ≤ 1
  closedEnds : controller.history.Pairwise fun earlier later =>
    earlier = .closed → ¬later.Admits

theorem AdmissionInvariant.accounts {controller : RequestController τ}
    (holds : AdmissionInvariant config controller) : AdmissionExact config controller := by
  constructor
  case inFlight => exact holds.counted
  case nonnegative =>
    rw [holds.counted]
    exact Int.natCast_nonneg _
  case bounded => exact holds.bounded
  case drained => exact holds.drained
  case sessions =>
    intro session
    rw [holds.sessions]
    constructor
    · rintro ⟨lease, owned⟩
      exact ⟨_, lease, registered_iff.mp (holds.attached lease session owned).1, owned⟩
    · rintro ⟨_, lease, _, owned⟩
      exact ⟨lease, owned⟩
  case sessionsByRequestId =>
    intro requestId session
    rw [holds.byRequest]
    constructor
    · rintro ⟨lease, owned, rfl⟩
      exact ⟨lease, registered_iff.mp (holds.attached lease session owned).1, owned⟩
    · rintro ⟨lease, found, owned⟩
      exact ⟨lease, owned, (holds.held requestId lease found).1⟩
  case releasedOnce => exact holds.releasedOnce
  case closedEnds => exact holds.closedEnds

/-- In every state of every interleaving the accounting of admission is exact. -/
theorem admission_exact [Add τ] [LE τ] [DecidableLE τ] {config : RequestControlConfig τ}
    {pool : ControlPool τ} (run : ControlRun config pool) : AdmissionExact config pool.shared :=
  (invariant_of_run run).accounts

/-! A lease is taken, submitted for good and finished, and the controller closes. -/

def oneSlot : RequestControlConfig Nat :=
  ⟨1, none, none, none, none, by decide, by simp, by simp, by simp⟩

def shortRequest : RuntimeGenerationRequest :=
  ⟨py "a", [1], 1, none, none, by decide, by decide, by decide⟩

def finishing : Surroundings Nat :=
  ⟨0, false, .session, false, true, .event (.finished .eos), .event⟩

def servedRequest : List (Action (Surroundings Nat) ControlCall) :=
  [.call (.acquire (py "a")), .run 0 finishing,
    .call (.leaseSubmitFinal 0 shortRequest), .run 1 finishing, .run 1 finishing,
    .call (.next 0), .run 2 finishing, .run 2 finishing, .run 2 finishing, .run 2 finishing,
    .run 2 finishing, .run 2 finishing,
    .call (.close .serverShutdown), .run 3 finishing, .run 3 finishing]

theorem admission_exact_served : ∃ pool : ControlPool Nat, ControlRun oneSlot pool ∧
    pool.shared.history = [.acquired 0, .submitted 0 0, .released 0, .closed] ∧
    AdmissionExact oneSlot pool.shared := by
  have performs : (Pool.perform (fun _ => serve oneSlot)
      ⟨RequestController.initial, []⟩ servedRequest).isSome = true := by decide
  have run : ControlRun oneSlot _ := Pool.Reachable.initial.perform servedRequest
    (Option.some_get performs).symm
  exact ⟨_, run, rfl, admission_exact run⟩

end ExQServe.Control
