import ExQServe.Control.Session
import ExQServe.Foundation.Machines

/-! # The slot of a controlled session

A `ControlledSession` with the calls made on it, in any interleaving. A call is suspended at
the awaits of `control/request.py`, and everything between two of them is one step. Each
awaited operation of the runtime, and the release callback, ends in any way, and a call may be
cancelled at any await. -/

namespace ExQServe.Control

open ExQServe.Model ExQServe.Runtime

variable {τ : Type}

/-! ## Calls -/

inductive Ending
  | returned
  | event (event : RuntimeEvent)
  | stopped
  | raised
  | interrupted
deriving DecidableEq

/-- After this the session has given its slot back: `cancel` has ended, or the iteration has
with a terminal event or an exception. -/
def Ending.Settles : Ending → Prop
  | .event delivered => (terminalReasonOf delivered).isSome = true
  | _ => True

inductive Place
  /-- `cancel` awaits the runtime's `cancel`. -/
  | cancelling
  /-- `__anext__` awaits the iterator. -/
  | pending
  /-- It awaits the iterator or the deadline. -/
  | racing
  /-- Past the deadline it awaits the runtime's `cancel`. -/
  | expiring
  /-- Past the deadline it awaits the release callback. -/
  | releasingExpired
  /-- Cancelled, it awaits the runtime's `cancel`. -/
  | interrupting
  /-- The call awaits the release callback, and ends so unless the callback raises. -/
  | leaving (ending : Ending)
  | ended (ending : Ending)
deriving DecidableEq

inductive Answer
  | returned
  | raised
  | interrupted
  | delivered (event : RuntimeEvent)
  | stopped
  | eventFirst
  | deadlineFirst
deriving DecidableEq

structure ReleaseWatch (τ : Type) where
  session : ControlledSession τ
  releases : Nat
deriving DecidableEq

namespace ReleaseWatch

def update (watch : ReleaseWatch τ) (session : ControlledSession τ) : ReleaseWatch τ :=
  { watch with session := session }

def leave (watch : ReleaseWatch τ) (ending : Ending) : ReleaseWatch τ × Place :=
  if watch.session.claimRelease.1 then
    (⟨watch.session.claimRelease.2, watch.releases + 1⟩, .leaving ending)
  else (watch, .ended ending)

def leaveFailed (watch : ReleaseWatch τ) (ending : Ending) : ReleaseWatch τ × Place :=
  if ending = .interrupted then
    let session := watch.session.endIteration (some .clientCancelled)
    if session.claimCancel.1 then (watch.update session.claimCancel.2, .interrupting)
    else (watch.update session).leave .interrupted
  else (watch.update (watch.session.endIteration none)).leave ending

def deliver (watch : ReleaseWatch τ) (event : RuntimeEvent) : ReleaseWatch τ × Place :=
  match terminalReasonOf event with
  | some reason => (watch.update (watch.session.endIteration (some reason))).leave (.event event)
  | none => (watch, .ended (.event event))

/-- `_release_once` past the deadline; then the iterator is awaited. -/
def releaseExpired (watch : ReleaseWatch τ) : ReleaseWatch τ × Place :=
  if watch.session.claimRelease.1 then
    (⟨watch.session.claimRelease.2, watch.releases + 1⟩, .releasingExpired)
  else (watch, .pending)

def expire (watch : ReleaseWatch τ) : ReleaseWatch τ × Place :=
  if watch.session.claimCancel.1 then (watch.update watch.session.claimCancel.2, .expiring)
  else watch.releaseExpired

def beginCancel (watch : ReleaseWatch τ) (reason : RequestTerminalReason) :
    ReleaseWatch τ × Place :=
  if reason ∉ cancelReasons then (watch, .ended .raised)
  else if (watch.session.beginCancel reason).1 then
    let session := (watch.session.beginCancel reason).2
    if session.claimCancel.1 then (watch.update session.claimCancel.2, .cancelling)
    else (watch.update session).leave .returned
  else (watch, .ended .returned)

def beginNext [LE τ] [DecidableLE τ] (watch : ReleaseWatch τ) (now : τ) :
    ReleaseWatch τ × Place :=
  if watch.session.iterationTerminal then (watch, .ended .stopped)
  else
    match watch.session.checkDeadline now with
    | (.unlimited, session) => (watch.update session, .pending)
    | (.passed, session) => (watch.update session).expire
    | (.pending, session) => (watch.update session, .racing)

def resume (watch : ReleaseWatch τ) : Place → Answer → Option (ReleaseWatch τ × Place)
  | .cancelling, .returned => some (watch.leave .returned)
  | .cancelling, .raised => some (watch, .ended .raised)
  | .cancelling, .interrupted => some (watch, .ended .interrupted)
  | .pending, .delivered event => some (watch.deliver event)
  | .pending, .stopped => some (watch.leaveFailed .stopped)
  | .pending, .raised => some (watch.leaveFailed .raised)
  | .pending, .interrupted => some (watch.leaveFailed .interrupted)
  | .racing, .eventFirst => some (watch, .pending)
  | .racing, .deadlineFirst => some ((watch.update (watch.session.conclude .timeout)).expire)
  | .racing, .interrupted => some (watch.leaveFailed .interrupted)
  | .expiring, .returned => some watch.releaseExpired
  | .expiring, .raised => some (watch.leaveFailed .raised)
  | .expiring, .interrupted => some (watch.leaveFailed .interrupted)
  | .releasingExpired, .returned => some (watch, .pending)
  | .releasingExpired, .raised => some (watch.leaveFailed .raised)
  | .releasingExpired, .interrupted => some (watch.leaveFailed .interrupted)
  | .interrupting, .returned => some (watch.leave .interrupted)
  | .interrupting, .raised => some (watch.leave .raised)
  | .interrupting, .interrupted => some (watch.leave .interrupted)
  | .leaving ending, .returned => some (watch, .ended ending)
  | .leaving _, .raised => some (watch, .ended .raised)
  | .leaving _, .interrupted => some (watch, .ended .interrupted)
  | _, _ => none

end ReleaseWatch

/-! ## Runs -/

structure SessionCalls (τ : Type) where
  watch : ReleaseWatch τ
  calls : List Place
deriving DecidableEq

inductive SessionAction (τ : Type)
  | cancel (reason : RequestTerminalReason)
  | next (now : τ)
  | answer (call : Nat) (answer : Answer)

namespace SessionCalls

def begin (state : SessionCalls τ) (result : ReleaseWatch τ × Place) : SessionCalls τ :=
  ⟨result.1, state.calls ++ [result.2]⟩

def step [LE τ] [DecidableLE τ] (state : SessionCalls τ) :
    SessionAction τ → Option (SessionCalls τ)
  | .cancel reason => some (state.begin (state.watch.beginCancel reason))
  | .next now => some (state.begin (state.watch.beginNext now))
  | .answer call answer => do
      let place ← state.calls[call]?
      let result ← state.watch.resume place answer
      some ⟨result.1, state.calls.set call result.2⟩

end SessionCalls

def sessionMachine [LE τ] [DecidableLE τ] (requestId : PyStr)
    (injectionAllowed finalRelease : Bool) (deadline : Option τ) :
      Machine (SessionCalls τ) (SessionAction τ) where
  initial := ⟨⟨newSession requestId injectionAllowed finalRelease deadline, 0⟩, []⟩
  step := SessionCalls.step

/-- Every call after which the slot is given back has given it back, once. -/
def SlotReturned (state : SessionCalls τ) : Prop :=
  ∀ ending, .ended ending ∈ state.calls → ending.Settles → state.watch.releases = 1

/-- The step ends a call whose session still holds its slot: the runtime's `cancel` fails under
`cancel`, or the call is turned away while another one still has to release, or it names a
reason that is none of a cancellation. -/
def EndsHolding (state : SessionCalls τ) : SessionAction τ → Prop
  | .cancel reason => state.watch.session.released = false ∧
      (reason ∉ cancelReasons ∨ state.watch.session.iterationTerminal = true ∨
        state.watch.session.cancelCalled = true)
  | .next _ => state.watch.session.released = false ∧
      state.watch.session.iterationTerminal = true
  | .answer call answer => state.watch.session.released = false ∧
      state.calls[call]? = some .cancelling ∧ (answer = .raised ∨ answer = .interrupted)

/-! ## One stretch -/

/-- The callback was called if and only if the session is marked as released, and once. -/
def ReleaseWatch.Counted (watch : ReleaseWatch τ) : Prop :=
  watch.releases = if watch.session.released then 1 else 0

/-- At these places the slot has been given back. -/
def Place.Settled : Place → Prop
  | .ended ending => ending.Settles
  | .leaving _ | .releasingExpired => True
  | _ => False

structure Stretch (before : ReleaseWatch τ) (after : ReleaseWatch τ × Place) : Prop where
  counted : before.Counted → after.1.Counted
  kept : before.session.released = true → after.1.session.released = true
  settled : after.2.Settled → after.1.session.released = true

namespace ControlledSession

variable {session : ControlledSession τ}

theorem claimCancel_of_called (called : session.cancelCalled = true) :
    session.claimCancel = (false, session) := by
  simp [claimCancel, called]

theorem claimCancel_of_uncalled (called : session.cancelCalled = false) :
    session.claimCancel = (true, { session with cancelCalled := true }) := by
  simp [claimCancel, called]

theorem checkDeadline_released [LE τ] [DecidableLE τ] (now : τ) :
    (session.checkDeadline now).2.released = session.released := by
  unfold checkDeadline
  cases session.deadline with
  | none => rfl
  | some deadline =>
      dsimp only
      split
      · rfl
      · split <;> rfl

end ControlledSession

namespace ReleaseWatch

variable {watch : ReleaseWatch τ}

/-- Whatever is done to the session first, unless it touches the slot. -/
theorem stretch_update {session : ControlledSession τ} {after : ReleaseWatch τ × Place}
    (stretch : Stretch (watch.update session) after)
    (same : session.released = watch.session.released) : Stretch watch after := by
  refine ⟨?_, ?_, stretch.settled⟩
  · intro counted
    apply stretch.counted
    unfold Counted at counted ⊢
    rw [update, same]
    exact counted
  · intro released
    exact stretch.kept (same.trans released)

theorem stretch_stay {place : Place} (unsettled : ¬ place.Settled) :
    Stretch watch (watch, place) :=
  ⟨id, id, fun settled => absurd settled unsettled⟩

theorem leave_stretch (ending : Ending) : Stretch watch (watch.leave ending) := by
  unfold leave ControlledSession.claimRelease
  cases released : watch.session.released with
  | true => exact ⟨id, id, fun _ => released⟩
  | false =>
      refine ⟨?_, fun _ => rfl, fun _ => rfl⟩
      intro counted
      unfold Counted at counted ⊢
      rw [released] at counted
      simp [counted]

theorem releaseExpired_stretch : Stretch watch watch.releaseExpired := by
  unfold releaseExpired ControlledSession.claimRelease
  cases released : watch.session.released with
  | true => exact stretch_stay id
  | false =>
      refine ⟨?_, fun _ => rfl, fun _ => rfl⟩
      intro counted
      unfold Counted at counted ⊢
      rw [released] at counted
      simp [counted]

theorem expire_stretch : Stretch watch watch.expire := by
  unfold expire
  cases called : watch.session.cancelCalled with
  | true =>
      rw [ControlledSession.claimCancel_of_called called]
      exact releaseExpired_stretch
  | false =>
      rw [ControlledSession.claimCancel_of_uncalled called]
      exact stretch_update (stretch_stay id) rfl

theorem leaveFailed_stretch (ending : Ending) : Stretch watch (watch.leaveFailed ending) := by
  unfold leaveFailed
  by_cases interrupted : ending = .interrupted
  · rw [if_pos interrupted]
    dsimp only
    cases called : (watch.session.endIteration (some .clientCancelled)).cancelCalled with
    | true =>
        rw [ControlledSession.claimCancel_of_called called]
        exact stretch_update (leave_stretch .interrupted) rfl
    | false =>
        rw [ControlledSession.claimCancel_of_uncalled called]
        exact stretch_update (stretch_stay id) rfl
  · rw [if_neg interrupted]
    exact stretch_update (leave_stretch ending) rfl

theorem deliver_stretch (event : RuntimeEvent) : Stretch watch (watch.deliver event) := by
  unfold deliver
  cases reason : terminalReasonOf event with
  | some reason => exact stretch_update (leave_stretch (.event event)) rfl
  | none =>
      apply stretch_stay
      intro settled
      rw [Place.Settled, Ending.Settles, reason] at settled
      cases settled

theorem beginNext_stretch [LE τ] [DecidableLE τ] {now : τ}
    (fair : watch.session.iterationTerminal = true → watch.session.released = true) :
    Stretch watch (watch.beginNext now) := by
  unfold beginNext
  cases terminal : watch.session.iterationTerminal with
  | true => exact ⟨id, id, fun _ => fair terminal⟩
  | false =>
      rw [if_neg Bool.false_ne_true]
      have same : (watch.session.checkDeadline now).2.released = watch.session.released :=
        ControlledSession.checkDeadline_released now
      rcases checked : watch.session.checkDeadline now with ⟨check, session⟩
      rw [checked] at same
      cases check with
      | unlimited => exact stretch_update (stretch_stay id) same
      | passed => exact stretch_update expire_stretch same
      | pending => exact stretch_update (stretch_stay id) same

theorem beginCancel_stretch {reason : RequestTerminalReason}
    (fair : (reason ∉ cancelReasons ∨ watch.session.iterationTerminal = true ∨
      watch.session.cancelCalled = true) → watch.session.released = true) :
    Stretch watch (watch.beginCancel reason) := by
  unfold beginCancel
  by_cases foreign : reason ∉ cancelReasons
  · rw [if_pos foreign]
    exact ⟨id, id, fun _ => fair (.inl foreign)⟩
  rw [if_neg foreign]
  unfold ControlledSession.beginCancel
  by_cases ended : (watch.session.iterationTerminal || watch.session.cancelCalled) = true
  · rw [if_pos ended]
    exact ⟨id, id, fun _ => fair (.inr ((Bool.or_eq_true _ _).mp ended))⟩
  · rw [if_neg ended]
    have called : (watch.session.conclude reason).cancelCalled = false := by
      simp only [Bool.or_eq_true, not_or] at ended
      exact Bool.eq_false_iff.mpr ended.2
    dsimp only
    rw [ControlledSession.claimCancel_of_uncalled called]
    exact stretch_update (stretch_stay id) rfl

theorem resume_stretch {place : Place} {answer : Answer} {after : ReleaseWatch τ × Place}
    (resumed : watch.resume place answer = some after)
    (fair : place = .cancelling → answer = .raised ∨ answer = .interrupted →
      watch.session.released = true)
    (settled : place.Settled → watch.session.released = true) : Stretch watch after := by
  cases place with
  | cancelling =>
      cases answer <;> cases resumed
      case returned.refl => exact leave_stretch .returned
      case raised.refl => exact ⟨id, id, fun _ => fair rfl (.inl rfl)⟩
      case interrupted.refl => exact ⟨id, id, fun _ => fair rfl (.inr rfl)⟩
  | pending =>
      cases answer <;> cases resumed
      case delivered.refl event => exact deliver_stretch event
      all_goals exact leaveFailed_stretch _
  | racing =>
      cases answer <;> cases resumed
      case eventFirst.refl => exact stretch_stay id
      case deadlineFirst.refl => exact stretch_update expire_stretch rfl
      case interrupted.refl => exact leaveFailed_stretch _
  | expiring =>
      cases answer <;> cases resumed
      case returned.refl => exact releaseExpired_stretch
      all_goals exact leaveFailed_stretch _
  | releasingExpired =>
      cases answer <;> cases resumed
      case returned.refl => exact stretch_stay id
      all_goals exact leaveFailed_stretch _
  | interrupting =>
      cases answer <;> cases resumed
      all_goals exact leave_stretch _
  | leaving ending =>
      cases answer <;> cases resumed
      all_goals exact ⟨id, id, fun _ => settled trivial⟩
  | ended ending => cases answer <;> cases resumed

end ReleaseWatch

/-! ## Whole runs -/

/-- The count is right, and where a call is past its release the slot is given back. -/
structure SessionCalls.Sound (state : SessionCalls τ) : Prop where
  counted : state.watch.Counted
  settled : ∀ place ∈ state.calls, place.Settled → state.watch.session.released = true

theorem SessionCalls.Sound.begin {state : SessionCalls τ} (sound : state.Sound)
    {result : ReleaseWatch τ × Place} (stretch : Stretch state.watch result) :
    (state.begin result).Sound := by
  refine ⟨stretch.counted sound.counted, ?_⟩
  intro place member settled
  rcases List.mem_append.mp member with earlier | new
  · exact stretch.kept (sound.settled place earlier settled)
  · cases List.mem_singleton.mp new
    exact stretch.settled settled

theorem SessionCalls.Sound.slotReturned {state : SessionCalls τ} (sound : state.Sound) :
    SlotReturned state := by
  intro ending member settles
  have released := sound.settled _ member settles
  have counted := sound.counted
  rw [ReleaseWatch.Counted, released] at counted
  exact counted

section Runs

variable [LE τ] [DecidableLE τ]

theorem SessionCalls.Sound.step {state next : SessionCalls τ} {action : SessionAction τ}
    (sound : state.Sound) (fair : ¬ EndsHolding state action)
    (taken : state.step action = some next) : next.Sound := by
  have held {holds : Prop} (ends : state.watch.session.released = false ∧ holds →
      EndsHolding state action) (here : holds) : state.watch.session.released = true := by
    by_contra unreleased
    exact fair (ends ⟨Bool.eq_false_iff.mpr unreleased, here⟩)
  cases action with
  | cancel reason =>
      cases taken
      exact sound.begin (ReleaseWatch.beginCancel_stretch fun turned => held id turned)
  | next now =>
      cases taken
      exact sound.begin (ReleaseWatch.beginNext_stretch fun terminal => held id terminal)
  | answer call answer =>
      rcases Option.bind_eq_some_iff.mp taken with ⟨place, there, rest⟩
      rcases Option.bind_eq_some_iff.mp rest with ⟨result, resumed, same⟩
      cases same
      have stretch : Stretch state.watch result := by
        apply ReleaseWatch.resume_stretch resumed
        · intro cancelling failed
          rw [cancelling] at there
          exact held id ⟨there, failed⟩
        · exact sound.settled place (List.mem_of_getElem? there)
      refine ⟨stretch.counted sound.counted, ?_⟩
      intro other member settled
      rcases List.mem_or_eq_of_mem_set member with earlier | rfl
      · exact stretch.kept (sound.settled other earlier settled)
      · exact stretch.settled settled

/-- A step that ends a call too early leaves a state that shows it. -/
theorem EndsHolding.visible {state : SessionCalls τ} {action : SessionAction τ}
    (sound : state.Sound) (ends : EndsHolding state action) :
    ∃ next, state.step action = some next ∧ ¬ SlotReturned next := by
  have none (unreleased : state.watch.session.released = false) :
      state.watch.releases ≠ 1 := by
    have counted := sound.counted
    rw [ReleaseWatch.Counted, unreleased] at counted
    rw [counted]
    exact Nat.zero_ne_one
  have shown {calls : List Place} (ending : Ending)
      (unreleased : state.watch.session.released = false) (settles : ending.Settles)
      (member : .ended ending ∈ calls) : ¬ SlotReturned ⟨state.watch, calls⟩ :=
    fun returned => none unreleased (returned ending member settles)
  cases action with
  | cancel reason =>
      rcases ends with ⟨unreleased, turned⟩
      refine ⟨_, rfl, ?_⟩
      rw [ReleaseWatch.beginCancel]
      by_cases foreign : reason ∉ cancelReasons
      · rw [if_pos foreign]
        apply shown .raised unreleased trivial
        exact List.mem_append_right _ (List.mem_singleton_self _)
      · have past : (state.watch.session.beginCancel reason).1 = false := by
          have turned := turned.resolve_left foreign
          simp [ControlledSession.beginCancel, turned]
        rw [if_neg foreign, past]
        apply shown .returned unreleased trivial
        exact List.mem_append_right _ (List.mem_singleton_self _)
  | next now =>
      rcases ends with ⟨unreleased, terminal⟩
      refine ⟨_, rfl, ?_⟩
      rw [ReleaseWatch.beginNext, if_pos terminal]
      apply shown .stopped unreleased trivial
      exact List.mem_append_right _ (List.mem_singleton_self _)
  | answer call answer =>
      rcases ends with ⟨unreleased, there, failed⟩
      have inside : call < state.calls.length := (List.getElem?_eq_some_iff.mp there).1
      rcases failed with rfl | rfl
      · refine ⟨⟨state.watch, state.calls.set call (.ended .raised)⟩,
          by simp [SessionCalls.step, there, ReleaseWatch.resume], ?_⟩
        exact shown .raised unreleased trivial (List.mem_set inside _)
      · refine ⟨⟨state.watch, state.calls.set call (.ended .interrupted)⟩,
          by simp [SessionCalls.step, there, ReleaseWatch.resume], ?_⟩
        exact shown .interrupted unreleased trivial (List.mem_set inside _)

/-- The slot is given back, once, behind every call that ends in a run, exactly in the runs
without a step that ends a call too early. -/
theorem slot_returned_iff (requestId : PyStr) (injectionAllowed finalRelease : Bool)
    (deadline : Option τ) (actions : List (SessionAction τ)) :
    (sessionMachine requestId injectionAllowed finalRelease deadline).Throughout SlotReturned
        actions ↔
      ¬ (sessionMachine requestId injectionAllowed finalRelease deadline).Passes EndsHolding
        actions := by
  have first : SessionCalls.Sound (sessionMachine requestId injectionAllowed finalRelease
      deadline).initial := ⟨rfl, fun _ member => absurd member List.not_mem_nil⟩
  apply Machine.throughout_iff first
  · intro state action next sound fair taken
    exact sound.step fair taken
  · intro state sound
    exact sound.slotReturned
  · intro state action sound ends
    exact ends.visible sound

end Runs

/-- The runtime's `cancel` raises under `cancel`; a second `cancel` then returns at once. -/
theorem failed_cancel_keeps_slot :
    ∃ state, (sessionMachine (py "r") true true (none : Option Nat)).Runs
        [.cancel .clientCancelled, .answer 0 .raised, .cancel .clientCancelled] state ∧
      state.calls = [.ended .raised, .ended .returned] ∧ state.watch.releases = 0 :=
  ⟨_, rfl, rfl, rfl⟩

end ExQServe.Control
